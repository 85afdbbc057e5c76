import PostalAddress.Text.Blank
import Mathlib.Data.List.Chain
import Mathlib.Data.List.DropRight

/-!
Squeezing and trimming. A text is squeezed if its blanks are single spaces; squeezing makes it so
and changes no text that is. Trimming takes off what may be taken off and nothing else, and blanks
at the ends make no difference to a text that is squeezed and then trimmed of more than blanks.
-/

namespace PostalAddress.Text

structure IsSqueezed (text : Text) : Prop where
  spaces : ∀ letter ∈ text, isBlank letter = true → letter = ' '
  apart : text.IsChain fun left right => ¬(left = ' ' ∧ right = ' ')

theorem IsSqueezed.part {text part : Text} (squeezed : IsSqueezed text) (within : part <:+: text) :
    IsSqueezed part := by
  constructor
  · intro letter member
    exact squeezed.spaces letter (within.subset member)
  · obtain ⟨before, behind, split⟩ := within
    have apart := squeezed.apart
    rw [← split] at apart
    exact apart.left_of_append.right_of_append

theorem head_drop_while_not (dropped : Char → Bool) (text : Text) :
    ∀ letter ∈ (text.dropWhile dropped).head?, dropped letter = false := by
  intro letter member
  have stopped := List.head?_dropWhile_not dropped text
  rw [Option.mem_def.1 member] at stopped
  simpa using stopped

theorem mem_squeeze (text : Text) (letter : Char) (member : letter ∈ squeeze text) :
    letter = ' ' ∨ letter ∈ text ∧ isBlank letter = false := by
  induction text with
  | nil => simp [squeeze] at member
  | cons head rest induction =>
      unfold squeeze at member
      split at member
      case isTrue blank =>
        rcases List.mem_cons.1 member with same | behind
        · exact .inl same
        · have kept := (List.dropWhile_suffix _).subset behind
          exact (induction kept).imp_right fun found => ⟨by simp [found.1], found.2⟩
      case isFalse solid =>
        rcases List.mem_cons.1 member with rfl | behind
        · exact .inr ⟨by simp, by simpa using solid⟩
        · exact (induction behind).imp_right fun found => ⟨by simp [found.1], found.2⟩

theorem mem_squeeze_of_solid (text : Text) (letter : Char) (member : letter ∈ text)
    (solid : isBlank letter = false) : letter ∈ squeeze text := by
  induction text with
  | nil => cases member
  | cons head rest induction =>
      rw [squeeze]
      split
      case isFalse =>
        rcases List.mem_cons.1 member with rfl | behind
        · exact .head _
        · exact .tail _ (induction behind)
      case isTrue blank =>
        rcases List.mem_cons.1 member with rfl | behind
        · rw [solid] at blank
          cases blank
        · have found := induction behind
          rw [← List.takeWhile_append_dropWhile (p := fun other => decide (other = ' '))
            (l := squeeze rest)] at found
          rcases List.mem_append.1 found with space | kept
          · have same : letter = ' ' := by simpa using List.mem_takeWhile_imp space
            rw [same] at solid
            cases solid
          · exact .tail _ kept

theorem squeeze_chain (text : Text) :
    (squeeze text).IsChain fun left right => ¬(left = ' ' ∧ right = ' ') := by
  induction text with
  | nil => simp [squeeze]
  | cons head rest induction =>
      unfold squeeze
      split
      case isTrue blank =>
        refine List.isChain_cons.2 ⟨?_, induction.suffix (List.dropWhile_suffix _)⟩
        intro next member both
        have solid := head_drop_while_not (fun letter => letter = ' ') (squeeze rest) next member
        simp [both.2] at solid
      case isFalse solid =>
        refine List.isChain_cons.2 ⟨?_, induction⟩
        rintro next _ ⟨rfl, _⟩
        exact solid (by decide)

theorem squeeze_squeezed (text : Text) : IsSqueezed (squeeze text) := by
  constructor
  case spaces =>
    intro letter member blank
    rcases mem_squeeze text letter member with same | ⟨_, solid⟩
    · exact same
    · rw [solid] at blank
      cases blank
  case apart => exact squeeze_chain text

theorem IsSqueezed.squeeze {text : Text} (squeezed : IsSqueezed text) : squeeze text = text := by
  induction text with
  | nil => rfl
  | cons head rest induction =>
      have tail := squeezed.part (List.suffix_cons head rest).isInfix
      rw [Text.squeeze, induction tail]
      split
      case isTrue blank =>
        have space := squeezed.spaces head (by simp) blank
        have next := (List.isChain_cons.1 squeezed.apart).1
        rw [space]
        cases rest with
        | nil => rfl
        | cons second others =>
            have notSpace : second ≠ ' ' := fun same => next second (by simp) ⟨space, same⟩
            simp [notSpace]
      case isFalse solid => rfl

theorem trim_where_within (dropped : Char → Bool) (text : Text) :
    trimWhere dropped text <:+: text :=
  (List.rdropWhile_prefix dropped _).isInfix.trans (List.dropWhile_suffix dropped).isInfix

theorem head_trim_where (dropped : Char → Bool) (text : Text) :
    ∀ letter ∈ (trimWhere dropped text).head?, dropped letter = false := by
  intro letter member
  obtain ⟨behind, split⟩ := List.rdropWhile_prefix dropped (text.dropWhile dropped)
  apply head_drop_while_not dropped text
  rw [← split, List.head?_append]
  simp only [Option.mem_def, Option.or_eq_some_iff]
  exact .inl member

theorem last_trim_where (dropped : Char → Bool) (text : Text) :
    ∀ letter ∈ (trimWhere dropped text).getLast?, dropped letter = false := by
  intro letter member
  rw [trimWhere, dropEndWhile, List.getLast?_reverse] at member
  exact head_drop_while_not dropped _ letter member

theorem drop_while_of_head (dropped : Char → Bool) (text : Text)
    (first : ∀ letter ∈ text.head?, dropped letter = false) : text.dropWhile dropped = text := by
  cases text with
  | nil => rfl
  | cons head rest => simp [first head (by simp)]

theorem drop_while_append (dropped : Char → Bool) (front rest : Text)
    (taken : ∀ letter ∈ front, dropped letter = true)
    (ends : ∀ letter ∈ rest.head?, dropped letter = false) :
    (front ++ rest).dropWhile dropped = rest := by
  rw [List.dropWhile_append_of_pos taken, drop_while_of_head dropped rest ends]

theorem drop_end_while_of_last (dropped : Char → Bool) (text : Text)
    (last : ∀ letter ∈ text.getLast?, dropped letter = false) : dropEndWhile dropped text = text := by
  rw [dropEndWhile, drop_while_of_head, List.reverse_reverse]
  rwa [List.head?_reverse]

theorem trim_where_of_last (dropped : Char → Bool) (text : Text)
    (last : ∀ letter ∈ text.getLast?, dropped letter = false) :
    trimWhere dropped text = text.dropWhile dropped := by
  apply drop_end_while_of_last
  intro letter member
  obtain ⟨before, split⟩ := List.dropWhile_suffix dropped (l := text)
  apply last
  rw [← split, List.getLast?_append]
  simp only [Option.mem_def, Option.or_eq_some_iff]
  exact .inl member

theorem trim_where_of_ends (dropped : Char → Bool) (text : Text)
    (first : ∀ letter ∈ text.head?, dropped letter = false)
    (last : ∀ letter ∈ text.getLast?, dropped letter = false) : trimWhere dropped text = text := by
  rw [trim_where_of_last dropped text last, drop_while_of_head dropped text first]

theorem trim_where_again (dropped : Char → Bool) (text : Text) :
    trimWhere dropped (trimWhere dropped text) = trimWhere dropped text :=
  trim_where_of_ends dropped _ (head_trim_where dropped text) (last_trim_where dropped text)

theorem trim_trim (text : Text) : text.trim.trim = text.trim := trim_where_again isBlank text

theorem drop_while_of_imp {narrow wide : Char → Bool}
    (within : ∀ letter, narrow letter = true → wide letter = true) (text : Text) :
    (text.dropWhile narrow).dropWhile wide = text.dropWhile wide := by
  induction text with
  | nil => rfl
  | cons head rest induction =>
      by_cases taken : narrow head = true
      · simp [taken, within head taken, induction]
      · simp [taken]

theorem trim_where_append (dropped : Char → Bool) (text behind : Text)
    (taken : ∀ letter ∈ behind, dropped letter = true) :
    trimWhere dropped (text ++ behind) = trimWhere dropped text := by
  have ended (front : Text) : dropEndWhile dropped (front ++ behind) = dropEndWhile dropped front := by
    rw [dropEndWhile, List.reverse_append, List.dropWhile_append_of_pos (by simpa using taken)]
    rfl
  rw [trimWhere, List.dropWhile_append]
  split
  case isTrue empty =>
    rw [trimWhere, List.isEmpty_iff.1 empty, List.dropWhile_eq_nil_iff.2 taken]
  case isFalse => exact ended _

theorem trim_where_parts (dropped : Char → Bool) (text : Text) :
    ∃ before behind, text = before ++ trimWhere dropped text ++ behind ∧
      (∀ letter ∈ before, dropped letter = true) ∧ ∀ letter ∈ behind, dropped letter = true := by
  refine ⟨text.takeWhile dropped,
    ((text.dropWhile dropped).reverse.takeWhile dropped).reverse, ?_, ?_, ?_⟩
  · rw [List.append_assoc, trimWhere, dropEndWhile, ← List.reverse_append,
      List.takeWhile_append_dropWhile, List.reverse_reverse, List.takeWhile_append_dropWhile]
  · intro letter member
    exact List.mem_takeWhile_imp member
  · intro letter member
    exact List.mem_takeWhile_imp (List.mem_reverse.1 member)

theorem trim_parts (text : Text) :
    ∃ before behind, text = before ++ text.trim ++ behind ∧
      (∀ letter ∈ before, isBlank letter = true) ∧ ∀ letter ∈ behind, isBlank letter = true :=
  trim_where_parts isBlank text

theorem squeeze_append (text behind : Text) :
    ∃ gap, squeeze (text ++ behind) = squeeze text ++ gap ∧
      ∀ letter ∈ gap, letter = ' ' ∨ letter ∈ behind := by
  induction text with
  | nil =>
      refine ⟨squeeze behind, rfl, fun letter member => ?_⟩
      exact (mem_squeeze behind letter member).imp_right And.left
  | cons head rest induction =>
      obtain ⟨gap, joined, within⟩ := induction
      rw [List.cons_append, squeeze, squeeze, joined]
      split
      case isFalse => exact ⟨gap, rfl, within⟩
      case isTrue =>
        rw [List.dropWhile_append]
        split
        case isFalse => exact ⟨gap, rfl, within⟩
        case isTrue empty =>
          refine ⟨gap.dropWhile fun letter => letter = ' ', ?_, fun letter member => ?_⟩
          · rw [List.isEmpty_iff.1 empty]
            rfl
          · exact within letter ((List.dropWhile_suffix _).subset member)

section Surrounded

variable (dropped : Char → Bool) (space : dropped ' ' = true)

include space

theorem drop_while_squeeze_append (before text : Text)
    (taken : ∀ letter ∈ before, isBlank letter = false → dropped letter = true) :
    (squeeze (before ++ text)).dropWhile dropped = (squeeze text).dropWhile dropped := by
  induction before with
  | nil => rfl
  | cons head rest induction =>
      have others := induction fun letter member => taken letter (by simp [member])
      rw [List.cons_append, squeeze]
      split
      case isTrue =>
        rw [List.dropWhile_cons_of_pos space, drop_while_of_imp (by simp [space]), others]
      case isFalse solid =>
        rw [List.dropWhile_cons_of_pos (taken head (by simp) (by simpa using solid)), others]

theorem trim_where_squeeze_surrounded (before text behind : Text)
    (takenBefore : ∀ letter ∈ before, dropped letter = true)
    (takenBehind : ∀ letter ∈ behind, dropped letter = true) :
    trimWhere dropped (squeeze (before ++ text ++ behind)) = trimWhere dropped (squeeze text) := by
  obtain ⟨gap, joined, within⟩ := squeeze_append text behind
  rw [List.append_assoc, trimWhere,
    drop_while_squeeze_append dropped space _ _ fun letter member _ => takenBefore letter member,
    joined]
  apply trim_where_append dropped _ gap
  intro letter member
  rcases within letter member with rfl | listed
  · exact space
  · exact takenBehind letter listed

end Surrounded

/-- A row of blanks is squeezed to a space, whatever stands around it. -/
theorem squeeze_gap (before gap behind : Text) (given : gap ≠ [])
    (blank : ∀ letter ∈ gap, isBlank letter = true) :
    squeeze (before ++ gap ++ behind) = squeeze (before ++ ' ' :: behind) := by
  induction before with
  | cons head rest induction => simp only [List.cons_append, squeeze, induction]
  | nil =>
      obtain ⟨head, rest, rfl⟩ := List.exists_cons_of_ne_nil given
      have space : isBlank ' ' = true := by decide
      have others : ∀ letter ∈ rest, isBlank letter = false → decide (letter = ' ') = true := by
        intro letter member solid
        rw [blank letter (by simp [member])] at solid
        cases solid
      rw [List.nil_append, List.nil_append, List.cons_append, squeeze, squeeze,
        if_pos (blank head (by simp)), if_pos space,
        drop_while_squeeze_append _ (by decide) rest behind others]

section Kept

variable (kept : Char → Bool)

theorem filter_drop_while (dropped : Char → Bool)
    (apart : ∀ letter, dropped letter = true → kept letter = false) (text : Text) :
    (text.dropWhile dropped).filter kept = text.filter kept := by
  have taken : (text.takeWhile dropped).filter kept = [] := by
    rw [List.filter_eq_nil_iff]
    intro letter member
    simp [apart letter (List.mem_takeWhile_imp member)]
  conv_rhs => rw [← List.takeWhile_append_dropWhile (p := dropped) (l := text)]
  rw [List.filter_append, taken, List.nil_append]

theorem filter_squeeze (solid : ∀ letter, isBlank letter = true → kept letter = false)
    (text : Text) : (squeeze text).filter kept = text.filter kept := by
  induction text with
  | nil => rfl
  | cons head rest induction =>
      rw [squeeze]
      split
      case isTrue blank =>
        have space : kept ' ' = false := solid ' ' (by decide)
        rw [List.filter_cons_of_neg (by simp [space]),
          List.filter_cons_of_neg (by simp [solid head blank]),
          filter_drop_while kept _ (by simp [space]), induction]
      case isFalse =>
        rw [List.filter_cons, List.filter_cons, induction]

theorem filter_trim_where (dropped : Char → Bool)
    (apart : ∀ letter, dropped letter = true → kept letter = false) (text : Text) :
    (trimWhere dropped text).filter kept = text.filter kept := by
  rw [trimWhere, dropEndWhile, List.filter_reverse, filter_drop_while kept dropped apart,
    ← List.filter_reverse, List.reverse_reverse, filter_drop_while kept dropped apart]

end Kept

end PostalAddress.Text
