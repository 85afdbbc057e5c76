import PostalAddress.Proofs.Squeezed
import PostalAddress.Text.Ascii

/-!
Texts that are not blank. Such a text stays so when it is trimmed, when it is written behind
another one, and when it is cut down to its first word.
-/

namespace PostalAddress

theorem digit_point (letter : Char) (digit : isDigit letter = true) :
    48 ≤ letter.toNat ∧ letter.toNat ≤ 57 := by
  simp only [isDigit, Bool.and_eq_true, decide_eq_true_eq] at digit
  exact digit

theorem word_character_point (letter : Char) (word : isWordCharacter letter = true) :
    48 ≤ letter.toNat ∧ letter.toNat ≤ 122 := by
  have between (first last : Char) (low : first ≤ letter) (high : letter ≤ last) :
      first.toNat ≤ letter.toNat ∧ letter.toNat ≤ last.toNat := ⟨low, high⟩
  simp only [isWordCharacter, isLetter, isLower, isUpper, isDigit, Bool.or_eq_true,
    Bool.and_eq_true, decide_eq_true_eq] at word
  rcases word with ((⟨low, high⟩ | ⟨low, high⟩) | ⟨low, high⟩) | rfl
  · obtain ⟨least, most⟩ := between 'a' 'z' low high
    exact ⟨le_trans (by decide) least, most⟩
  · obtain ⟨least, most⟩ := between 'A' 'Z' low high
    exact ⟨le_trans (by decide) least, le_trans most (by decide)⟩
  · obtain ⟨least, most⟩ := between '0' '9' low high
    exact ⟨least, le_trans most (by decide)⟩
  · decide

theorem word_character_solid (letter : Char) (word : isWordCharacter letter = true) :
    isBlank letter = false := by
  have point := word_character_point letter word
  simp only [isBlank, Bool.or_eq_false_iff, Bool.and_eq_false_iff, decide_eq_false_iff_not]
  omega

theorem blank_no_word (letter : Char) (blank : isBlank letter = true) :
    isWordCharacter letter = false := by
  by_contra word
  rw [word_character_solid letter (by simpa using word)] at blank
  cases blank

theorem digit_solid (digit : Char) (numeric : isDigit digit = true) : isBlank digit = false :=
  word_character_solid digit (by simp [isWordCharacter, numeric])

theorem letter_solid (letter : Char) (lettered : isLetter letter = true) :
    isBlank letter = false :=
  word_character_solid letter (by simp [isWordCharacter, lettered])

theorem letter_of_lower (written lowered : Char) (same : asciiLower written = lowered)
    (lettered : isLetter lowered = true) : isLetter written = true := by
  rw [asciiLower] at same
  split at same
  case isTrue upper => simp [isLetter, upper]
  case isFalse => rw [same, lettered]

namespace Text

theorem trim_all_blank (text : Text) : text.trim.isAllBlank = text.isAllBlank := by
  obtain ⟨before, behind, parted, beforeBlank, behindBlank⟩ := trim_parts text
  conv_rhs => rw [parted]
  rw [isAllBlank, isAllBlank, List.all_append, List.all_append, List.all_eq_true.2 beforeBlank,
    List.all_eq_true.2 behindBlank, Bool.true_and, Bool.and_true]

theorem trim_begins (text : Text) (given : text.trim ≠ []) :
    ∃ letter rest, text.trim = letter :: rest ∧ isBlank letter = false := by
  obtain ⟨letter, rest, split⟩ := List.exists_cons_of_ne_nil given
  refine ⟨letter, rest, split, head_trim_where isBlank text letter ?_⟩
  rw [← trim, split]
  rfl

theorem trim_solid (text : Text) (given : text.trim ≠ []) : text.trim.isAllBlank = false := by
  obtain ⟨letter, rest, split, solid⟩ := trim_begins text given
  simp [split, isAllBlank, solid]

theorem trim_eq_nil_iff (text : Text) : text.trim = [] ↔ text.isAllBlank = true := by
  constructor
  · intro empty
    rw [← trim_all_blank, empty]
    rfl
  · intro blank
    by_contra given
    rw [← trim_all_blank, trim_solid text given] at blank
    cases blank

theorem trim_of_solid (text : Text) (solid : ∀ letter ∈ text, isBlank letter = false) :
    text.trim = text := by
  apply trim_where_of_ends
  · intro letter first
    exact solid letter (List.mem_of_head? first)
  · intro letter last
    exact solid letter (List.mem_of_getLast? last)

theorem append_solid (before text : Text) (solid : text.isAllBlank = false) :
    (before ++ text).isAllBlank = false := by
  have parts : (before ++ text).isAllBlank = (before.isAllBlank && text.isAllBlank) := by
    simp only [isAllBlank, List.all_append]
  rw [parts, solid, Bool.and_false]

/-- The first word is the whole text or stands in front of it, so it begins as the trimmed text. -/
theorem head_word_solid (text : Text) (solid : text.isAllBlank = false) :
    (headWord text).1.isAllBlank = false := by
  have given : text.trim ≠ [] := fun empty => by
    rw [(trim_eq_nil_iff text).1 empty] at solid
    cases solid
  rw [headWord]
  split
  case h_1 => rw [trim_all_blank, solid]
  case h_2 word rest cut =>
    obtain ⟨letter, behind, split, inked⟩ := trim_begins text given
    have noSpace : letter ≠ ' ' := fun same => by
      rw [same] at inked
      cases inked
    have begins : word = letter :: behind.takeWhile fun other => !decide (other = ' ') := by
      rw [cutAt?, split] at cut
      split at cut
      case h_1 => cases cut
      case h_2 =>
        cases cut
        simp [noSpace]
    simp [begins, isAllBlank, inked]

theorem head_word_rest (text : Text) (given : (headWord text).2 ≠ []) :
    (headWord text).2.isAllBlank = false := by
  rw [headWord] at given ⊢
  split at given
  case h_1 => exact absurd rfl given
  case h_2 word rest cut => exact trim_solid rest given

theorem present_given (text : Text) (given : text ≠ []) : present? text = some text := by
  obtain ⟨letter, rest, begins⟩ := List.exists_cons_of_ne_nil given
  rw [begins]
  rfl

theorem present_solid (text : Text) (solid : text.isAllBlank = false) :
    present? text = some text := by
  cases text with
  | nil => cases solid
  | cons letter rest => rfl

theorem present_eq_some (text present : Text) (given : present? text = some present) :
    present ≠ [] ∧ text = present := by
  cases text with
  | nil => cases given
  | cons letter rest =>
      cases given
      exact ⟨List.cons_ne_nil _ _, rfl⟩

theorem solid_of_letter (text : Text) (letter : Char) (member : letter ∈ text)
    (solid : isBlank letter = false) : text.isAllBlank = false :=
  List.all_eq_false.2 ⟨letter, member, by simp [solid]⟩

theorem skip_blanks_solid (text : Text) (given : skipBlanks text ≠ []) :
    (skipBlanks text).isAllBlank = false := by
  obtain ⟨letter, rest, split⟩ := List.exists_cons_of_ne_nil given
  have inked : isBlank letter = false := head_drop_while_not isBlank text letter (by
    rw [← skipBlanks, split]
    rfl)
  exact solid_of_letter _ letter (by simp [split]) inked

end Text

end PostalAddress
