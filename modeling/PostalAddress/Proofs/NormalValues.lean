import PostalAddress.Proofs.WrittenForm

/-!
Values in normal form, told by the units that stand in them and not by what normalizing does. What
reads so stays as it is, and what normalizing gives reads so unless halves meet over a mark in the
value: then it has all of the form but letters in lower case. Blanks around a value make no
difference, and of its uppercase nothing is lost but blanks, periods, parentheses, commas and
semicolons.
-/

namespace PostalAddress

/-- A clear text with no blank and no list punctuation at either end. -/
structure ReadsTidy (text : Text) : Prop extends IsClear text where
  first : ∀ letter ∈ text.head?, isBlank letter = false ∧ letter ≠ ',' ∧ letter ≠ ';'
  last : ∀ letter ∈ text.getLast?, isBlank letter = false ∧ letter ≠ ',' ∧ letter ≠ ';'

structure ReadsNormal (text : Text) : Prop extends ReadsTidy text where
  upper : text.upper = text

theorem no_edge_mark_iff (letter : Char) :
    isEdgeMark letter = false ↔ isBlank letter = false ∧ letter ≠ ',' ∧ letter ≠ ';' := by
  simp [isEdgeMark, and_assoc]

theorem is_normal_iff_reads (text : Text) : IsNormal text ↔ ReadsTidy text := by
  constructor
  · intro normal
    refine ⟨normal.clear, ?first, ?last⟩
    case first =>
      intro letter member
      exact (no_edge_mark_iff letter).1 (normal.first letter member)
    case last =>
      intro letter member
      exact (no_edge_mark_iff letter).1 (normal.last letter member)
  · intro reads
    apply (reads.toIsClear.tidy ?last).normal
    case last =>
      intro letter member
      exact (no_edge_mark_iff letter).2 (reads.last letter member)
    intro letter member
    exact (no_edge_mark_iff letter).2 (reads.first letter member)

theorem normalize_reads_tidy (value : Text) : ReadsTidy (normalize value) :=
  (is_normal_iff_reads _).1 (normalize_normal value)

theorem normalize_eq_self_iff (value : Text) : normalize value = value ↔ ReadsNormal value := by
  rw [normalize_eq_self_iff_normal, is_normal_iff_reads, ← Text.upper_eq_self_iff]
  constructor
  · rintro ⟨reads, upper⟩
    exact ⟨reads, upper⟩
  · intro reads
    exact ⟨reads.toReadsTidy, reads.upper⟩

theorem normalize_reads_normal_iff (value : Text) :
    ReadsNormal (normalize value) ↔ ¬JoinsHalves value := by
  rw [← normalize_is_upper_iff, ← Text.upper_eq_self_iff]
  exact ⟨fun reads => reads.upper, fun upper => ⟨normalize_reads_tidy value, upper⟩⟩

/-- The values that read normal are those that normalizing leaves as they are. It leads to them from
the values in which no halves meet over a mark, and from any other to the form but for letters in
lower case. -/
theorem normalize_projects (value : Text) :
    ReadsTidy (normalize value) ∧
      (ReadsNormal (normalize value) ↔ ¬JoinsHalves value) ∧
      (normalize value = value ↔ ReadsNormal value) ∧
      normalize (normalize value) = (normalize value).upper ∧
      normalize value.trim = normalize value ∧
      (normalize value).filter (fun letter => !isDroppedMark letter && !isEdgeMark letter) =
        value.upper.filter (fun letter => !isDroppedMark letter && !isEdgeMark letter) ∧
      (value.isWellFormed = true → ¬JoinsHalves value) := by
  refine ⟨normalize_reads_tidy value, normalize_reads_normal_iff value, normalize_eq_self_iff value,
    normalize_normalize value, normalize_trim value, ?_, well_formed_joins_none value⟩
  apply normalize_filter
  · intro letter edge
    simp [edge]
  · intro letter dropped
    simp [dropped]

theorem split_letter_normalized :
    (normalize Text.splitLetter).upper ≠ normalize Text.splitLetter ∧
      normalize (normalize Text.splitLetter) ≠ normalize Text.splitLetter := by
  decide +kernel

/-- A mark between two blanks leaves one space, and a letter that becomes two stays two. -/
example : normalize ";\tGroße . (Straße) ,".toList = "GROSSE STRASSE".toList := by decide +kernel

end PostalAddress
