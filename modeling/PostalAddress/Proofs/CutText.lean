import PostalAddress.Proofs.SolidText

/-!
Texts that are cut at the first letter of a kind. Nothing is lost but the letter itself, and blanks
around the text stay around its pieces.
-/

namespace PostalAddress.Text

variable (separator : Char)

theorem cut_at_eq_some_iff (text before behind : Text) :
    cutAt? (· = separator) text = some (before, behind) ↔
      text = before ++ separator :: behind ∧ separator ∉ before := by
  constructor
  · intro cut
    obtain ⟨letter, same, parted⟩ := cut_at_append _ text before behind cut
    rw [of_decide_eq_true same] at parted
    refine ⟨parted, fun member => ?_⟩
    rw [cutAt?] at cut
    split at cut
    case h_1 => cases cut
    case h_2 =>
      cases cut
      have kept := List.mem_takeWhile_imp (p := fun letter => !decide (letter = separator)) member
      simp at kept
  · rintro ⟨rfl, absent⟩
    have front : ∀ letter ∈ before, (!decide (letter = separator)) = true := by
      intro letter member
      have other : letter ≠ separator := fun same => absent (same ▸ member)
      simp [other]
    rw [cutAt?, List.dropWhile_append_of_pos front, List.takeWhile_append_of_pos front]
    simp

theorem cut_at_eq_none_iff (text : Text) :
    cutAt? (· = separator) text = none ↔ separator ∉ text := by
  constructor
  · intro uncut member
    obtain ⟨before, behind, parted⟩ := List.eq_append_cons_of_mem member
    rw [(cut_at_eq_some_iff separator text before behind).2 parted] at uncut
    cases uncut
  · intro absent
    cases cut : cutAt? (· = separator) text with
    | none => rfl
    | some parts =>
        obtain ⟨parted, _⟩ := (cut_at_eq_some_iff separator text parts.1 parts.2).1 cut
        rw [parted] at absent
        exact absurd (by simp) absent

theorem cut_induction {motive : Text → Prop}
    (uncut : ∀ text, separator ∉ text → motive text)
    (cut : ∀ before behind, separator ∉ before → motive behind →
      motive (before ++ separator :: behind))
    (text : Text) : motive text := by
  induction size : text.length using Nat.strong_induction_on generalizing text with
  | _ length shorter =>
      by_cases member : separator ∈ text
      case neg => exact uncut text member
      case pos =>
        obtain ⟨before, behind, parted, absent⟩ := List.eq_append_cons_of_mem member
        have less : behind.length < length := by
          rw [← size, parted, List.length_append, List.length_cons]
          omega
        rw [parted]
        exact cut before behind absent (shorter behind.length less behind rfl)

theorem take_while_uncut (text : Text) (absent : separator ∉ text) :
    text.takeWhile (· ≠ separator) = text ∧ text.dropWhile (· ≠ separator) = [] := by
  have kept : ∀ letter ∈ text, decide (letter ≠ separator) = true := by
    intro letter member
    exact decide_eq_true fun same => absent (same ▸ member)
  exact ⟨List.takeWhile_eq_self_iff.2 kept, List.dropWhile_eq_nil_iff.2 kept⟩

theorem take_while_cut (before behind : Text) (absent : separator ∉ before) :
    (before ++ separator :: behind).takeWhile (· ≠ separator) = before ∧
      (before ++ separator :: behind).dropWhile (· ≠ separator) = separator :: behind := by
  have kept : ∀ letter ∈ before, decide (letter ≠ separator) = true := by
    intro letter member
    exact decide_eq_true fun same => absent (same ▸ member)
  rw [List.takeWhile_append_of_pos kept, List.dropWhile_append_of_pos kept]
  simp

theorem trim_surrounded (front text back : Text)
    (frontBlank : ∀ letter ∈ front, isBlank letter = true)
    (backBlank : ∀ letter ∈ back, isBlank letter = true) :
    (front ++ text ++ back).trim = text.trim := by
  rw [trim, trim_where_append isBlank _ back backBlank, trimWhere,
    List.dropWhile_append_of_pos frontBlank]
  rfl

theorem count_trim (letter : Char) (solid : isBlank letter = false) (text : Text) :
    text.trim.count letter = text.count letter := by
  have apart (gap : Text) (blank : ∀ other ∈ gap, isBlank other = true) : gap.count letter = 0 := by
    apply List.count_eq_zero.2
    intro member
    rw [blank letter member] at solid
    cases solid
  obtain ⟨front, back, parted, frontBlank, backBlank⟩ := trim_parts text
  conv_rhs => rw [parted]
  rw [List.count_append, List.count_append, apart front frontBlank, apart back backBlank]
  omega

end PostalAddress.Text
