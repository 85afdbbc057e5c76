import PostalAddress.BareIntersection
import PostalAddress.Proofs.SolidText

/-!
The tokens of a street that is labelled word by word. Labelling takes words off both ends and loses
none: the parts of a street, in their order, are the words of its text. So no token of a street is
blank, and each is written with letters of the text and the spaces between the words of a name.
-/

namespace PostalAddress

namespace Component

/-- The parts of a street that are told apart at an intersection. -/
def crossingFields : List Component := [predirectional, streetName, posttype, postdirectional]

end Component

/-- A token that is not blank, under the label of a part of the street or of a house number. -/
structure Token.IsOfStreet (label : Component → Text) (token : Token) : Prop where
  solid : token.text.isAllBlank = false
  labelled : token.label = Component.number.label ∨
    ∃ component ∈ Component.crossingFields, token.label = label component

namespace Text

theorem split_on_letters (cutsAt : Char → Bool) (text piece : Text)
    (member : piece ∈ text.splitOnP cutsAt) :
    ∀ letter ∈ piece, cutsAt letter = false ∧ letter ∈ text := by
  induction text generalizing piece with
  | nil =>
      rw [List.splitOnP_nil, List.mem_singleton] at member
      simp [member]
  | cons head rest induction =>
      intro letter inside
      have later (other : Text) (listed : other ∈ rest.splitOnP cutsAt) (inOther : letter ∈ other) :
          cutsAt letter = false ∧ letter ∈ head :: rest := by
        obtain ⟨kept, found⟩ := induction other listed letter inOther
        exact ⟨kept, .tail _ found⟩
      rw [List.splitOnP_cons_eq_if_modifyHead] at member
      split at member
      case isTrue =>
        rcases List.mem_cons.1 member with rfl | listed
        · cases inside
        · exact later piece listed inside
      case isFalse kept =>
        obtain ⟨first, others, pieces⟩ := List.exists_cons_of_ne_nil (List.splitOnP_ne_nil cutsAt rest)
        rw [pieces] at later
        rw [pieces, List.modifyHead_cons] at member
        rcases List.mem_cons.1 member with rfl | listed
        · rcases List.mem_cons.1 inside with rfl | inFirst
          · exact ⟨by simpa using kept, .head _⟩
          · exact later first (.head _) inFirst
        · exact later piece (.tail _ listed) inside

theorem split_on_no_separator (separator : Char) (text : Text) :
    ∀ piece ∈ text.splitOn separator, separator ∉ piece := by
  intro piece member inside
  have apart := (split_on_letters (· == separator) text piece member separator inside).1
  simp at apart

theorem split_on_flatten (cutsAt : Char → Bool) (text : Text) :
    (text.splitOnP cutsAt).flatten = text.filter fun letter => !cutsAt letter := by
  induction text with
  | nil => rfl
  | cons head rest induction =>
      rw [List.splitOnP_cons_eq_if_modifyHead]
      split
      case isTrue cuts => simp [cuts, induction]
      case isFalse stays =>
        obtain ⟨first, others, pieces⟩ :=
          List.exists_cons_of_ne_nil (List.splitOnP_ne_nil cutsAt rest)
        rw [pieces] at induction ⊢
        rw [List.filter_cons_of_pos (by simpa using stays), ← induction]
        rfl

theorem word_letters (text word : Text) (member : word ∈ text.words) :
    word ≠ [] ∧ ∀ letter ∈ word, isBlank letter = false ∧ letter ∈ text := by
  obtain ⟨listed, notEmpty⟩ := List.mem_filter.1 member
  exact ⟨by simpa using notEmpty, split_on_letters isBlank text word listed⟩

theorem unwords_letters (pieces : List Text) (letter : Char) (member : letter ∈ unwords pieces) :
    letter = ' ' ∨ ∃ piece ∈ pieces, letter ∈ piece := by
  induction pieces with
  | nil => cases member
  | cons piece others induction =>
      cases others with
      | nil => exact .inr ⟨piece, .head _, by simpa [unwords] using member⟩
      | cons next rest =>
          rw [unwords, List.intercalate_cons_cons] at member
          rcases List.mem_append.1 member with front | behind
          · rcases List.mem_append.1 front with inPiece | space
            · exact .inr ⟨piece, .head _, inPiece⟩
            · exact .inl (List.mem_singleton.1 space)
          · obtain space | ⟨other, listed, inOther⟩ := induction behind
            · exact .inl space
            · exact .inr ⟨other, .tail _ listed, inOther⟩

theorem unwords_solid (pieces : List Text) (given : unwords pieces ≠ [])
    (solid : ∀ piece ∈ pieces, piece.isAllBlank = false) : (unwords pieces).isAllBlank = false := by
  cases pieces with
  | nil => exact absurd rfl given
  | cons piece others =>
      obtain ⟨letter, inside, inked⟩ := List.all_eq_false.1 (solid piece (.head _))
      have found : letter ∈ unwords (piece :: others) := by
        cases others with
        | nil => simpa [unwords] using inside
        | cons next rest => simp [unwords, inside]
      exact solid_of_letter _ letter found (by simpa using inked)

end Text

theorem take_first_parts (kind : Text → Bool) (words : List Text) :
    (takeFirst kind words).1.toList ++ (takeFirst kind words).2 = words := by
  unfold takeFirst
  split
  case h_1 first next rest =>
    split
    case isTrue => rfl
    case isFalse => rfl
  case h_2 => rfl

theorem take_last_parts (kind : Text → Bool) (words : List Text) :
    (takeLast kind words).2 ++ (takeLast kind words).1.toList = words := by
  have parts := congrArg List.reverse (take_first_parts kind words.reverse)
  rw [List.reverse_append, List.reverse_reverse] at parts
  have last : (takeLast kind words).1.toList = (takeLast kind words).1.toList.reverse := by
    cases (takeLast kind words).1 <;> rfl
  rw [last]
  exact parts

namespace StreetWords

def words (street : StreetWords) : List Text :=
  street.number.toList ++ (street.predirectional.toList ++ street.name ++ street.posttype.toList ++
    street.postdirectional.toList)

theorem words_of_words (words : List Text) : (ofWords words).words = words := by
  rw [StreetWords.words, ofWords]
  simp only [take_first_parts, take_last_parts]

theorem name_words (words : List Text) : ∀ word ∈ (ofWords words).name, word ∈ words := by
  intro word listed
  rw [← words_of_words words]
  simp [StreetWords.words, listed]

/-- A token is one word of the street, or all the words of its name. -/
theorem mem_tokens (label : Component → Text) (street : StreetWords) (token : Token)
    (member : token ∈ street.tokens label) :
    (token.label = Component.number.label ∨
        ∃ component ∈ Component.crossingFields, token.label = label component) ∧
      (token.text ∈ street.words ∨ token.text = Text.unwords street.name ∧ token.text ≠ []) := by
  have part (text? : Option Text) (heading : Text)
      (listed : token ∈ (text?.map (Token.mk heading)).toList) :
      token.label = heading ∧ text? = some token.text := by
    obtain ⟨text, found, rfl⟩ := Option.map_eq_some_iff.1 (Option.mem_toList.1 listed)
    exact ⟨rfl, found⟩
  simp only [tokens, List.mem_append] at member
  rcases member with (((number | predirectional) | name) | posttype) | postdirectional
  · obtain ⟨labelled, found⟩ := part _ _ number
    exact ⟨.inl labelled, .inl (by simp [words, found])⟩
  · obtain ⟨labelled, found⟩ := part _ _ predirectional
    exact ⟨.inr ⟨_, by decide, labelled⟩, .inl (by simp [words, found])⟩
  · obtain ⟨labelled, found⟩ := part _ _ name
    refine ⟨.inr ⟨_, by decide, labelled⟩, .inr ?_⟩
    obtain ⟨given, written⟩ := Text.present_eq_some _ _ found
    exact ⟨written.symm, given⟩
  · obtain ⟨labelled, found⟩ := part _ _ posttype
    exact ⟨.inr ⟨_, by decide, labelled⟩, .inl (by simp [words, found])⟩
  · obtain ⟨labelled, found⟩ := part _ _ postdirectional
    exact ⟨.inr ⟨_, by decide, labelled⟩, .inl (by simp [words, found])⟩

end StreetWords

theorem tag_street_of_street (label : Component → Text) (text : Text) :
    ∀ token ∈ tagStreet label text, token.IsOfStreet label := by
  intro token member
  obtain ⟨labelled, written⟩ := StreetWords.mem_tokens label _ token member
  rw [StreetWords.words_of_words] at written
  have wordSolid (word : Text) (listed : word ∈ text.words) : word.isAllBlank = false := by
    obtain ⟨given, letters⟩ := Text.word_letters text word listed
    obtain ⟨letter, rest, rfl⟩ := List.exists_cons_of_ne_nil given
    exact Text.solid_of_letter _ letter (.head _) (letters letter (.head _)).1
  refine ⟨?_, labelled⟩
  rcases written with word | ⟨name, given⟩
  · exact wordSolid token.text word
  · rw [name] at given ⊢
    apply Text.unwords_solid _ given
    intro word listed
    exact wordSolid word (StreetWords.name_words text.words word listed)

/-- Labelling writes nothing but letters of the text and spaces. -/
theorem tag_street_letters (label : Component → Text) (text : Text) :
    ∀ token ∈ tagStreet label text, ∀ letter ∈ token.text, letter = ' ' ∨ letter ∈ text := by
  intro token member letter inside
  obtain ⟨_, written⟩ := StreetWords.mem_tokens label _ token member
  rw [StreetWords.words_of_words] at written
  rcases written with word | ⟨name, _⟩
  · exact .inr ((Text.word_letters text token.text word).2 letter inside).2
  · rw [name] at inside
    obtain space | ⟨word, listed, inWord⟩ := Text.unwords_letters _ letter inside
    · exact .inl space
    · have ofText := StreetWords.name_words text.words word listed
      exact .inr ((Text.word_letters text word ofText).2 letter inWord).2

end PostalAddress
