import PostalAddress.Proofs.Joining
import PostalAddress.Proofs.SolidText

/-!
What a token without a value does to the house numbers around it. It leaves the bag as it is and
ends a range, so it shows exactly between two house numbers with nothing but separators between
them, and not none: there the second one is joined by a space instead of a hyphen, and what
follows is joined as before.
-/

namespace PostalAddress

/-- A house number that is not blank. -/
structure Token.IsNumber (token : Token) : Prop where
  labelled : token.component? = some .number
  solid : token.text.isAllBlank = false

theorem Token.is_number_iff (token : Token) :
    token.IsNumber ↔ ∃ text, token.value? = some (.number, text) := by
  constructor
  · intro number
    have present : Text.present? token.text.trim = some token.text.trim :=
      Text.present_solid _ (by rw [Text.trim_all_blank, number.solid])
    refine ⟨token.text.trim, ?_⟩
    rw [value?, token.labelled_no_separator .number number.labelled, number.labelled,
      Option.bind_some, present]
    rfl
  · rintro ⟨text, added⟩
    obtain ⟨labelled, written, given⟩ := token.value_parts .number text added
    refine ⟨labelled, ?_⟩
    rw [← Text.trim_all_blank]
    exact Text.trim_solid token.text (written ▸ given)

def EndsWithNumber (tokens gap : List Token) : Prop :=
  ∃ before number, tokens = before ++ number :: gap ∧ number.IsNumber

def BeginsWithNumber (tokens gap : List Token) : Prop :=
  ∃ number after, tokens = gap ++ number :: after ∧ number.IsNumber

/-- Just these tokens are between a house number in front of a place and one behind it. -/
def LieBetweenNumbers (between front behind : List Token) : Prop :=
  ∃ gap gapBehind, between = gap ++ gapBehind ∧ EndsWithNumber front gap ∧
    BeginsWithNumber behind gapBehind

namespace Joining

theorem step_separator (joining : Joining) (token : Token) (separator : token.isSeparator = true) :
    joining.step token = ⟨joining.bag, joining.trail.passSeparator⟩ :=
  if_pos separator

theorem step_traceless (joining : Joining) (token : Token) (noSeparator : token.isSeparator = false)
    (traceless : token.value? = none) : joining.step token = ⟨joining.bag, .elsewhere⟩ := by
  unfold Token.value? at traceless
  unfold step
  rw [if_neg (by simp [noSeparator])] at traceless ⊢
  cases labelled : token.component? with
  | none => rfl
  | some component =>
      cases text : token.text.trim with
      | nil => rfl
      | cons letter rest =>
          rw [labelled, text] at traceless
          cases traceless

theorem run_separators (joining : Joining) (gap : List Token)
    (separators : ∀ token ∈ gap, token.isSeparator = true) :
    gap.foldl step joining =
      ⟨joining.bag, if gap = [] then joining.trail else joining.trail.passSeparator⟩ := by
  induction gap generalizing joining with
  | nil => rfl
  | cons token rest induction =>
      rw [List.foldl_cons, joining.step_separator token (separators token (.head _)),
        induction _ fun other later => separators other (.tail _ later)]
      cases trail : joining.trail <;> simp [NumberTrail.passSeparator]

theorem step_number (joining : Joining) (number : Token) (isNumber : number.IsNumber) :
    ∃ value, number.value? = some (.number, value) ∧
      joining.step number = joining.append .number value := by
  obtain ⟨value, added⟩ := number.is_number_iff.1 isNumber
  exact ⟨value, added, joining.step_with_value number _ _ added⟩

theorem trail_ends_with_number (tokens : List Token)
    (remembered : (tokens.foldl step start).trail ≠ .elsewhere) :
    ∃ gap, EndsWithNumber tokens gap ∧ ∀ token ∈ gap, token.isSeparator = true := by
  induction tokens using List.reverseRecOn with
  | nil => exact absurd rfl remembered
  | append_singleton tokens token induction =>
      rw [List.foldl_concat] at remembered
      cases added : token.value? with
      | none =>
          cases separator : token.isSeparator with
          | true =>
              rw [step_separator _ _ separator] at remembered
              have before : (tokens.foldl step start).trail ≠ .elsewhere := fun elsewhere =>
                remembered (by rw [elsewhere]; rfl)
              obtain ⟨gap, ⟨front, number, rfl, isNumber⟩, separators⟩ := induction before
              refine ⟨gap ++ [token], ⟨front, number, by simp, isNumber⟩, fun other member => ?_⟩
              rcases List.mem_append.1 member with inGap | last
              · exact separators other inGap
              · rw [List.mem_singleton.1 last, separator]
          | false =>
              rw [step_traceless _ _ separator added] at remembered
              exact absurd rfl remembered
      | some entry =>
          obtain ⟨component, value⟩ := entry
          rw [step_with_value _ _ _ _ added] at remembered
          have number : component = .number := by
            by_contra other
            exact remembered (if_neg other)
          subst number
          exact ⟨[], ⟨tokens, token, rfl, token.is_number_iff.2 ⟨value, added⟩⟩, by simp⟩

theorem append_has (joining : Joining) (component : Component) (value : Text)
    (given : value ≠ []) : (joining.append component value).bag.has component = true := by
  rw [append, Bag.has, Bag.value, Bag.get_set_self, Option.getD_some]
  cases joining.bag.has component <;> simp [given]

theorem append_number (joining : Joining) (value : Text) (has : joining.bag.has .number = true) :
    (joining.append .number value).bag.value .number =
      joining.bag.value .number ++ joiner .number joining.trail ++ value := by
  rw [append, Bag.value, Bag.get_set_self, has, if_pos rfl, Option.getD_some]

theorem run_ends_with_number (tokens gap : List Token) (ends : EndsWithNumber tokens gap)
    (separators : ∀ token ∈ gap, token.isSeparator = true) :
    (tokens.foldl step start).bag.has .number = true ∧
      (tokens.foldl step start).trail =
        if gap = [] then .afterNumber else .afterNumberAndSeparator := by
  obtain ⟨before, number, rfl, isNumber⟩ := ends
  obtain ⟨value, added, stepped⟩ := step_number (before.foldl step start) number isNumber
  have given := (number.value_parts _ _ added).2.2
  rw [List.foldl_append, List.foldl_cons, stepped, run_separators _ gap separators]
  exact ⟨append_has _ _ value given, rfl⟩

/-- Unless the tokens begin with a house number, it does not matter for them what was before. -/
theorem run_without_number (bag : Bag) (left right : NumberTrail) (tokens : List Token)
    (begins : ∀ gap, BeginsWithNumber tokens gap → ¬∀ token ∈ gap, token.isSeparator = true) :
    (tokens.foldl step ⟨bag, left⟩).bag = (tokens.foldl step ⟨bag, right⟩).bag := by
  induction tokens generalizing left right with
  | nil => rfl
  | cons token rest induction =>
      rw [List.foldl_cons, List.foldl_cons]
      cases added : token.value? with
      | none =>
          cases separator : token.isSeparator with
          | true =>
              rw [step_separator _ _ separator, step_separator _ _ separator]
              apply induction
              rintro gap ⟨number, after, rfl, isNumber⟩ separators
              refine begins (token :: gap) ⟨number, after, rfl, isNumber⟩ fun other member => ?_
              rcases List.mem_cons.1 member with rfl | inGap
              · exact separator
              · exact separators other inGap
          | false => rw [step_traceless _ _ separator added, step_traceless _ _ separator added]
      | some entry =>
          obtain ⟨component, value⟩ := entry
          have noNumber : component ≠ .number := by
            rintro rfl
            exact begins [] ⟨token, rest, rfl, token.is_number_iff.2 ⟨value, added⟩⟩ (by simp)
          have same : (Joining.mk bag left).append component value =
              (Joining.mk bag right).append component value := by
            simp [append, joiner, noNumber]
          rw [step_with_value _ _ _ _ added, step_with_value _ _ _ _ added, same]

/-- Two runs that have come to house numbers of which neither is the other, and have nothing else
to tell them apart when a house number follows. -/
structure NumbersApart (left right : Joining) : Prop where
  trail : left.trail = right.trail
  leftHas : left.bag.has .number = true
  rightHas : right.bag.has .number = true
  apart : left.bag.value .number ≠ right.bag.value .number

theorem NumbersApart.append {left right : Joining} (numbers : NumbersApart left right)
    (component : Component) (value : Text) (given : value ≠ []) :
    NumbersApart (left.append component value) (right.append component value) := by
  by_cases number : component = .number
  · subst number
    refine ⟨rfl, append_has _ _ value given, append_has _ _ value given, ?_⟩
    rw [append_number left value numbers.leftHas, append_number right value numbers.rightHas,
      numbers.trail, List.append_assoc, List.append_assoc]
    exact fun same => numbers.apart (List.append_cancel_right same)
  · -- A value of another component leaves the house numbers as they are.
    have kept (joining : Joining) :
        (joining.append component value).bag.value .number = joining.bag.value .number := by
      rw [Bag.value, Joining.append, Bag.get_set_other _ _ _ _ (Ne.symm number), Bag.value]
    refine ⟨rfl, ?_, ?_, ?_⟩
    · rw [Bag.has, kept, ← Bag.has, numbers.leftHas]
    · rw [Bag.has, kept, ← Bag.has, numbers.rightHas]
    · rw [kept, kept]
      exact numbers.apart

theorem NumbersApart.run {left right : Joining} (numbers : NumbersApart left right)
    (tokens : List Token) : NumbersApart (tokens.foldl step left) (tokens.foldl step right) := by
  induction tokens generalizing left right with
  | nil => exact numbers
  | cons token rest induction =>
      rw [List.foldl_cons, List.foldl_cons]
      apply induction
      cases added : token.value? with
      | none =>
          cases separator : token.isSeparator with
          | true =>
              rw [step_separator _ _ separator, step_separator _ _ separator, numbers.trail]
              exact ⟨rfl, numbers.leftHas, numbers.rightHas, numbers.apart⟩
          | false =>
              rw [step_traceless _ _ separator added, step_traceless _ _ separator added]
              exact ⟨rfl, numbers.leftHas, numbers.rightHas, numbers.apart⟩
      | some entry =>
          have given := (token.value_parts _ _ added).2.2
          rw [step_with_value _ _ _ _ added, step_with_value _ _ _ _ added]
          exact numbers.append _ _ given

theorem range_apart (bag : Bag) (value : Text) (has : bag.has .number = true)
    (given : value ≠ []) :
    NumbersApart ((Joining.mk bag .elsewhere).append .number value)
      ((Joining.mk bag .afterNumberAndSeparator).append .number value) := by
  refine ⟨rfl, append_has _ _ value given, append_has _ _ value given, ?_⟩
  rw [append_number _ value has, append_number _ value has]
  simp [joiner]

end Joining

namespace Bag

theorem of_tokens_insert (front behind : List Token) (token : Token)
    (noSeparator : token.isSeparator = false) (traceless : token.value? = none)
    (apart : ∀ between, LieBetweenNumbers between front behind →
      (∀ other ∈ between, other.isSeparator = true) → between = []) :
    ofTokens (front ++ token :: behind) = ofTokens (front ++ behind) := by
  rw [ofTokens, ofTokens, List.foldl_append, List.foldl_append, List.foldl_cons,
    Joining.step_traceless _ _ noSeparator traceless]
  by_cases begins : ∃ gap, BeginsWithNumber behind gap ∧ ∀ other ∈ gap, other.isSeparator = true
  case neg =>
    exact Joining.run_without_number _ _ _ behind fun gap found separators =>
      begins ⟨gap, found, separators⟩
  case pos =>
    obtain ⟨gapBehind, found, separatorsBehind⟩ := begins
    by_cases elsewhere : (front.foldl Joining.step .start).trail = .elsewhere
    · rw [← elsewhere]
    · obtain ⟨gap, ends, separators⟩ := Joining.trail_ends_with_number front elsewhere
      have adjacent : gap ++ gapBehind = [] := by
        refine apart _ ⟨gap, gapBehind, rfl, ends, found⟩ fun other member => ?_
        exact (List.mem_append.1 member).elim (separators other) (separatorsBehind other)
      obtain ⟨rfl, rfl⟩ := List.append_eq_nil_iff.1 adjacent
      obtain ⟨number, after, rfl, isNumber⟩ := found
      obtain ⟨value, added, -⟩ := Joining.step_number .start number isNumber
      have trail := (Joining.run_ends_with_number front [] ends separators).2
      -- Right behind a house number a space joins the next one, as it does elsewhere.
      rw [List.nil_append, List.foldl_cons, List.foldl_cons,
        Joining.step_with_value _ _ _ _ added, Joining.step_with_value _ _ _ _ added,
        Joining.append, Joining.append, trail]
      rfl

/-- A token without a value that parts a range changes the house number. -/
theorem of_tokens_part_range (front behind between : List Token) (token : Token)
    (noSeparator : token.isSeparator = false) (traceless : token.value? = none)
    (numbers : LieBetweenNumbers between front behind)
    (separators : ∀ other ∈ between, other.isSeparator = true) (nonempty : between ≠ []) :
    (ofTokens (front ++ token :: behind)).value .number ≠
      (ofTokens (front ++ behind)).value .number := by
  obtain ⟨gap, gapBehind, rfl, ends, number, after, rfl, isNumber⟩ := numbers
  obtain ⟨has, trail⟩ := Joining.run_ends_with_number front gap ends fun other member =>
    separators other (List.mem_append_left _ member)
  obtain ⟨value, added, -⟩ := Joining.step_number .start number isNumber
  have given := (number.value_parts _ _ added).2.2
  have passed (joining : Joining) := joining.run_separators gapBehind fun other member =>
    separators other (List.mem_append_right _ member)
  have ranged : (if gapBehind = [] then (front.foldl Joining.step .start).trail
      else (front.foldl Joining.step .start).trail.passSeparator) = .afterNumberAndSeparator := by
    rw [trail]
    by_cases none : gapBehind = []
    · have some : gap ≠ [] := by simpa [none] using nonempty
      simp [none, some]
    · cases gap <;> simp [none, NumberTrail.passSeparator]
  have parted : (if gapBehind = [] then NumberTrail.elsewhere
      else NumberTrail.elsewhere.passSeparator) = .elsewhere :=
    ite_self NumberTrail.elsewhere
  rw [ofTokens, ofTokens, List.foldl_append, List.foldl_append, List.foldl_cons,
    Joining.step_traceless _ _ noSeparator traceless, List.foldl_append, List.foldl_append,
    passed, passed, ranged, parted, List.foldl_cons, List.foldl_cons,
    Joining.step_with_value _ _ _ _ added, Joining.step_with_value _ _ _ _ added]
  exact ((Joining.range_apart _ value has given).run after).apart

end Bag

end PostalAddress
