import PostalAddress.Proofs.CutText
import PostalAddress.Proofs.StreetWords

/-!
Words that are joined by single spaces are read back as the same words, and a text that is written
with single spaces is its words joined. So texts of this form are joined words and nothing else, and
what is said of the one can be said of the other.
-/

namespace PostalAddress.Text

structure IsWord (word : Text) : Prop where
  given : word ≠ []
  solid : ∀ letter ∈ word, isBlank letter = false

theorem IsSqueezed.word {text : Text} (squeezed : IsSqueezed text) (given : text ≠ [])
    (absent : ' ' ∉ text) : text.IsWord where
  given := given
  solid letter member := by
    by_contra blank
    exact absent (squeezed.spaces letter member (by simpa using blank) ▸ member)

theorem mem_words_word (text word : Text) (member : word ∈ text.words) : word.IsWord := by
  obtain ⟨given, letters⟩ := word_letters text word member
  exact ⟨given, fun letter inside => (letters letter inside).1⟩

theorem words_append_blank (before behind : Text) (space : Char) (blank : isBlank space = true) :
    words (before ++ space :: behind) = before.words ++ behind.words := by
  rw [words, List.splitOnP_append_cons before behind blank, List.filter_append]
  rfl

theorem IsWord.words {word : Text} (isWord : word.IsWord) : word.words = [word] := by
  have whole := List.splitOnP_eq_singleton isWord.solid
  have given := isWord.given
  rw [Text.words, whole]
  simp [given]

theorem unwords_cons (piece : Text) (others : List Text) (given : others ≠ []) :
    unwords (piece :: others) = piece ++ ' ' :: unwords others := by
  obtain ⟨next, rest, begins⟩ := List.exists_cons_of_ne_nil given
  subst begins
  rw [unwords, List.intercalate_cons_cons, List.append_assoc]
  rfl

theorem words_unwords (pieces : List Text) (solid : ∀ piece ∈ pieces, piece.IsWord) :
    (unwords pieces).words = pieces := by
  induction pieces with
  | nil => rfl
  | cons piece others induction =>
      have first := (solid piece (.head _)).words
      have tail := induction fun other member => solid other (.tail _ member)
      by_cases given : others = []
      · subst given
        simpa [unwords] using first
      · rw [unwords_cons piece others given, words_append_blank _ _ ' ' (by decide), first, tail]
        rfl

/-- Words are told apart by their joined text. -/
theorem unwords_injective (left right : List Text) (leftSolid : ∀ piece ∈ left, piece.IsWord)
    (rightSolid : ∀ piece ∈ right, piece.IsWord) (same : unwords left = unwords right) :
    left = right := by
  rw [← words_unwords left leftSolid, same, words_unwords right rightSolid]

theorem unwords_words (text : Text) (squeezed : IsSqueezed text) (first : text.head? ≠ some ' ')
    (last : text.getLast? ≠ some ' ') : unwords text.words = text := by
  induction text using cut_induction ' ' with
  | uncut text absent =>
      by_cases given : text = []
      · subst given
        rfl
      · rw [(squeezed.word given absent).words]
        exact List.intercalate_singleton
  | cut before behind absent induction =>
      have beforeGiven : before ≠ [] := by
        rintro rfl
        exact first rfl
      have behindGiven : behind ≠ [] := by
        rintro rfl
        simp at last
      have tail : ' ' :: behind <:+ before ++ ' ' :: behind := List.suffix_append before _
      have apart := (List.isChain_cons.1 (squeezed.part tail.isInfix).apart).1
      have firstBehind : behind.head? ≠ some ' ' := fun space => apart ' ' space ⟨rfl, rfl⟩
      have lastBehind : behind.getLast? ≠ some ' ' := by
        rwa [List.getLast?_append_of_ne_nil _ (List.cons_ne_nil _ _),
          List.getLast?_cons_of_ne_nil behindGiven] at last
      have part := squeezed.part ((List.suffix_cons ' ' behind).trans tail).isInfix
      have rejoined := induction part firstBehind lastBehind
      have isWord := (squeezed.part (List.prefix_append before _).isInfix).word beforeGiven absent
      have wordsGiven : behind.words ≠ [] := by
        intro empty
        rw [empty] at rejoined
        exact behindGiven rejoined.symm
      rw [words_append_blank before behind ' ' (by decide), isWord.words, List.singleton_append,
        unwords_cons before _ wordsGiven, rejoined]

end PostalAddress.Text
