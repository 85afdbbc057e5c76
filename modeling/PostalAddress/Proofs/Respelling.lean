import PostalAddress.Proofs.Canonical
import Mathlib.Logic.Relation

/-!
Values that are spelled differently. A value may be written in another case, with or without
periods and parentheses, with other blanks between its words, with blanks and list punctuation
around it, and in full or abbreviated. Such changes, made any number of times and taken back, lead
to values with the same canonical value, and to all of these from a value in which no halves meet
over a mark.
-/

namespace PostalAddress

/-- One change of spelling in a value of a component. -/
inductive Respelled (component : Component) : Text → Text → Prop where
  | letterCase (left right : Text) (same : left.upper = right.upper) :
      Respelled component left right
  | mark (before behind : Text) (letter : Char) (dropped : isDroppedMark letter = true)
      (apart : ∀ high ∈ before.getLast?, ∀ low ∈ behind.head?, ¬Text.IsLowerPair high low) :
      Respelled component (before ++ letter :: behind) (before ++ behind)
  | gap (before gap behind : Text) (given : gap ≠ [])
      (blank : ∀ letter ∈ gap, isBlank letter = true) :
      Respelled component (before ++ gap ++ behind) (before ++ ' ' :: behind)
  | edges (before value behind : Text) (edgesBefore : ∀ letter ∈ before, isEdgeMark letter = true)
      (edgesBehind : ∀ letter ∈ behind, isEdgeMark letter = true) :
      Respelled component (before ++ value ++ behind) value
  | abbreviated (table : AbbreviationTable) (given : component.table? = some table)
      (value short : Text) (found : table.short? (normalize value) = some short) :
      Respelled component value short

def SameSpelled (component : Component) : Text → Text → Prop :=
  Relation.EqvGen (Respelled component)

theorem normalize_without_mark (before behind : Text) (letter : Char)
    (dropped : isDroppedMark letter = true)
    (apart : ∀ high ∈ before.getLast?, ∀ low ∈ behind.head?, ¬Text.IsLowerPair high low) :
    normalize (before ++ letter :: behind) = normalize (before ++ behind) := by
  have same : unmarkedUpper (before ++ letter :: behind) = unmarkedUpper (before ++ behind) := by
    rw [unmarked_upper_append before behind apart, unmarked_upper_append,
      unmarked_upper_dropped letter behind dropped]
    intro high _ next first
    cases first
    have whole := Text.whole_no_pair letter high (mark_no_half letter dropped)
    exact Text.not_lower_of_no_pair _ _ whole.2
  exact congrArg (fun text => Text.trimWhere isEdgeMark (Text.squeeze text)) same

theorem normalize_gap (before gap behind : Text) (given : gap ≠ [])
    (blank : ∀ letter ∈ gap, isBlank letter = true) :
    normalize (before ++ gap ++ behind) = normalize (before ++ ' ' :: behind) := by
  have parted (blanks : Text) (filled : blanks ≠ [])
      (edges : ∀ letter ∈ blanks, isEdgeMark letter = true) :
      unmarkedUpper (before ++ blanks ++ behind) =
        unmarkedUpper before ++ blanks ++ unmarkedUpper behind := by
    rw [unmarked_upper_append, unmarked_upper_behind before blanks edges]
    intro high last low _
    rw [List.getLast?_append_of_ne_nil _ filled] at last
    exact (edge_apart high low (edges high (List.mem_of_getLast? last))).1
  have same : Text.squeeze (unmarkedUpper (before ++ gap ++ behind)) =
      Text.squeeze (unmarkedUpper (before ++ [' '] ++ behind)) := by
    rw [parted gap given fun letter member => blank_edge letter (blank letter member),
      parted [' '] (by simp) (List.forall_mem_singleton.2 (by decide)),
      Text.squeeze_gap _ gap _ given blank, List.append_assoc]
    rfl
  rw [List.append_assoc before [' '] behind] at same
  exact congrArg (Text.trimWhere isEdgeMark) same

theorem Respelled.canonical {component : Component} {left right : Text}
    (respelled : Respelled component left right) :
    component.canonical left = component.canonical right := by
  cases respelled with
  | letterCase _ _ same =>
      apply component.canonical_congr
      rw [normalize, normalize, same]
  | mark before behind letter dropped apart =>
      apply component.canonical_congr
      exact normalize_without_mark before behind letter dropped apart
  | gap before gap behind given blank =>
      apply component.canonical_congr
      exact normalize_gap before gap behind given blank
  | edges before _ behind edgesBefore edgesBehind =>
      apply component.canonical_congr
      exact normalize_surrounded before _ behind edgesBefore edgesBehind
  | abbreviated table given _ short found =>
      have kept := (component.table_closed table given).lookup_short _ _ found
      rw [component.canonical_of_table table given, component.canonical_of_table table given, kept,
        AbbreviationTable.lookup, found, Option.getD_some]

theorem SameSpelled.canonical {component : Component} {left right : Text}
    (same : SameSpelled component left right) :
    component.canonical left = component.canonical right := by
  induction same with
  | rel _ _ respelled => exact respelled.canonical
  | refl _ => rfl
  | symm _ _ _ back => exact back.symm
  | trans _ _ _ _ _ first second => exact first.trans second

namespace SameSpelled

variable (component : Component)

theorem step {left right : Text} (respelled : Respelled component left right) :
    SameSpelled component left right :=
  .rel _ _ respelled

theorem upper (value : Text) : SameSpelled component value value.upper := by
  apply step
  exact .letterCase value value.upper (Text.upper_upper value).symm

/-- The marks are dropped one by one, behind what was looked through before. -/
theorem unmarked (before text : Text)
    (upper : (before ++ text.filter fun letter => !isDroppedMark letter).IsUpper) :
    SameSpelled component (before ++ text)
      (before ++ text.filter fun letter => !isDroppedMark letter) := by
  induction text generalizing before with
  | nil => exact .refl _
  | cons letter rest induction =>
      by_cases dropped : isDroppedMark letter = true
      · rw [List.filter_cons_of_neg (by simp [dropped])] at upper ⊢
        have apart : ∀ high ∈ before.getLast?, ∀ low ∈ rest.head?, ¬Text.IsLowerPair high low := by
          intro high last low first both
          have unmarked := (half_unchanged low (Text.pair_halves high low both.pair).2).1
          obtain ⟨others, rfl⟩ := List.head?_eq_some_iff.1 first
          rw [List.filter_cons_of_pos (by simp [unmarked])] at upper
          exact ((Text.is_upper_append_iff _ _).1 upper).2.2 high last low rfl both
        have gone : SameSpelled component (before ++ letter :: rest) (before ++ rest) :=
          step component (.mark before rest letter dropped apart)
        exact gone.trans _ _ _ (induction before upper)
      · rw [List.filter_cons_of_pos (by simp [dropped])] at upper ⊢
        have others := induction (before ++ [letter]) (by rwa [← List.append_cons])
        rwa [← List.append_cons, ← List.append_cons] at others

/-- A blank makes one space with the spaces that the rest begins with once it is squeezed. -/
theorem squeezed (before text : Text) :
    SameSpelled component (before ++ text) (before ++ Text.squeeze text) := by
  induction text generalizing before with
  | nil => exact .refl _
  | cons letter rest induction =>
      have others := induction (before ++ [letter])
      rw [← List.append_cons, ← List.append_cons] at others
      rw [Text.squeeze]
      split
      case isFalse => exact others
      case isTrue blank =>
        apply others.trans
        let spaces := (Text.squeeze rest).takeWhile (· = ' ')
        let behind := (Text.squeeze rest).dropWhile (· = ' ')
        have parted : before ++ letter :: Text.squeeze rest =
            before ++ (letter :: spaces) ++ behind := by
          rw [List.append_assoc, List.cons_append, List.takeWhile_append_dropWhile]
        rw [parted]
        apply step
        apply Respelled.gap before (letter :: spaces) behind (List.cons_ne_nil _ _)
        intro other member
        rcases List.mem_cons.1 member with rfl | space
        · exact blank
        · have same : other = ' ' := by simpa using List.mem_takeWhile_imp space
          rw [same]
          decide

theorem normalized (value : Text) (apart : ¬JoinsHalves value) :
    SameSpelled component value (normalize value) := by
  have cased := upper component value
  have marks := unmarked component [] value.upper (unmarked_is_upper value apart)
  have blanks := squeezed component [] (unmarkedUpper value)
  have trimmed : SameSpelled component (Text.squeeze (unmarkedUpper value)) (normalize value) := by
    obtain ⟨before, behind, parts, edgesBefore, edgesBehind⟩ :=
      Text.trim_where_parts isEdgeMark (Text.squeeze (unmarkedUpper value))
    rw [parts]
    exact step component (.edges before _ behind edgesBefore edgesBehind)
  exact ((cased.trans _ _ _ marks).trans _ _ _ blanks).trans _ _ _ trimmed

theorem canonicalized (value : Text) (apart : ¬JoinsHalves value) :
    SameSpelled component value (component.canonical value) := by
  cases given : component.table? with
  | none =>
      rw [component.canonical_of_no_table given]
      exact normalized component value apart
  | some table =>
      rw [component.canonical_of_table table given, AbbreviationTable.lookup]
      cases found : table.short? (normalize value) with
      | none => exact normalized component value apart
      | some short => exact step component (.abbreviated table given value short found)

end SameSpelled

theorem same_spelled_iff (component : Component) (left right : Text)
    (leftApart : ¬JoinsHalves left) (rightApart : ¬JoinsHalves right) :
    SameSpelled component left right ↔ component.canonical left = component.canonical right := by
  constructor
  · exact SameSpelled.canonical
  · intro same
    have leftCanonical := SameSpelled.canonicalized component left leftApart
    have rightCanonical := SameSpelled.canonicalized component right rightApart
    rw [← same] at rightCanonical
    exact leftCanonical.trans _ _ _ (rightCanonical.symm _ _)

end PostalAddress
