import PostalAddress.Parsed
import PostalAddress.Proofs.NestedNotes

/-!
Texts as a tagger is given them. Such a text has no parentheses, and a blank of it is a space between
two characters that are none. Cleaning leaves a text of this form and changes none that has it, so
an address is interpreted as its cleaned text is. A tagger is asked about that text alone, and not at
all if it is empty.
-/

namespace PostalAddress

/-- Each blank is a space with no blank next to it, and none stands at an end. -/
def Text.IsSpaced (text : Text) : Prop :=
  ∀ before letter behind, text = before ++ letter :: behind → isBlank letter = true →
    letter = ' ' ∧ (∃ left ∈ before.getLast?, isBlank left = false) ∧
      ∃ right ∈ behind.head?, isBlank right = false

structure IsClean (text : Text) : Prop where
  unmarked : ∀ letter ∈ text, isParenthesis letter = false
  spaced : text.IsSpaced

namespace Text

theorem IsSpaced.squeezed {text : Text} (spaced : IsSpaced text) : IsSqueezed text where
  spaces letter member blank := by
    obtain ⟨before, behind, parted⟩ := List.append_of_mem member
    exact (spaced before letter behind parted blank).1
  apart := by
    rw [List.isChain_iff_forall_rel_of_append_cons_cons]
    rintro left right before behind parted ⟨rfl, rfl⟩
    obtain ⟨_, _, next, isNext, solid⟩ := spaced before ' ' (' ' :: behind) parted (by decide)
    cases isNext
    cases solid

theorem IsSpaced.first {text : Text} (spaced : IsSpaced text) :
    ∀ letter ∈ text.head?, isBlank letter = false := by
  intro letter first
  by_contra blank
  obtain ⟨rest, parted⟩ := List.head?_eq_some_iff.1 first
  obtain ⟨_, ⟨left, inFront, _⟩, _⟩ := spaced [] letter rest parted (by simpa using blank)
  cases inFront

theorem IsSpaced.last {text : Text} (spaced : IsSpaced text) :
    ∀ letter ∈ text.getLast?, isBlank letter = false := by
  intro letter last
  by_contra blank
  obtain ⟨front, parted⟩ := List.getLast?_eq_some_iff.1 last
  obtain ⟨_, _, right, isNext, _⟩ := spaced front letter [] parted (by simpa using blank)
  cases isNext

theorem IsSqueezed.spaced {text : Text} (squeezed : IsSqueezed text)
    (first : ∀ letter ∈ text.head?, isBlank letter = false)
    (last : ∀ letter ∈ text.getLast?, isBlank letter = false) : IsSpaced text := by
  intro before letter behind parted blank
  have solid (other : Char) (member : other ∈ text) (apart : other ≠ ' ') :
      isBlank other = false := by
    by_contra blank
    exact apart (squeezed.spaces other member (by simpa using blank))
  subst parted
  obtain rfl : letter = ' ' := squeezed.spaces letter (by simp) blank
  have chain := List.isChain_iff_forall_rel_of_append_cons_cons.1 squeezed.apart
  refine ⟨rfl, ?left, ?right⟩
  case left =>
    cases before using List.reverseRecOn with
    | nil => cases first ' ' rfl
    | append_singleton front left =>
        refine ⟨left, List.getLast?_concat, solid left (by simp) fun same => ?_⟩
        exact chain (List.append_assoc front [left] _) ⟨same, rfl⟩
  case right =>
    cases behind with
    | nil => cases last ' ' List.getLast?_concat
    | cons right rest =>
        exact ⟨right, rfl, solid right (by simp) fun same => chain rfl ⟨rfl, same⟩⟩

/-- Neither squeezing nor trimming changes a spaced text. -/
theorem IsSpaced.squeeze_trim {text : Text} (spaced : IsSpaced text) :
    (squeeze text).trim = text := by
  rw [spaced.squeezed.squeeze]
  exact trim_where_of_ends isBlank text spaced.first spaced.last

end Text

theorem blank_notes_unmarked (insideNote : Bool) (text : Text) :
    ∀ letter ∈ blankNotes insideNote text, isParenthesis letter = false := by
  fun_induction blankNotes insideNote text with
  | case1 => simp
  | case2 letter rest induction => exact induction
  | case3 _ rest _ induction => exact List.forall_mem_cons.2 ⟨by decide, induction⟩
  | case4 _ rest _ _ induction => exact List.forall_mem_cons.2 ⟨by decide, induction⟩
  | case5 _ letter rest _ noOpening noClosing induction =>
      exact List.forall_mem_cons.2 ⟨(plain_iff letter).2 ⟨noOpening, noClosing⟩, induction⟩

theorem blank_notes_plain (text : Text) (plain : ∀ letter ∈ text, isParenthesis letter = false) :
    blankNotes false text = text := by
  induction text with
  | nil => rfl
  | cons letter rest induction =>
      obtain ⟨first, others⟩ := List.forall_mem_cons.1 plain
      rw [blank_notes_letter false letter rest first, induction others]
      rfl

theorem clean_text_clean (text : Text) : IsClean (cleanText text) where
  unmarked letter member := by
    have inSqueezed := (Text.trim_where_within isBlank _).subset member
    rcases Text.mem_squeeze _ letter inSqueezed with rfl | ⟨inBlanked, _⟩
    · decide
    · exact blank_notes_unmarked false text letter inBlanked
  spaced := by
    have within := Text.trim_where_within isBlank (Text.squeeze (blankNotes false text))
    exact ((Text.squeeze_squeezed _).part within).spaced (Text.head_trim_where isBlank _)
      (Text.last_trim_where isBlank _)

theorem IsClean.clean_text {text : Text} (clean : IsClean text) : cleanText text = text := by
  rw [cleanText, blank_notes_plain text clean.unmarked, clean.spaced.squeeze_trim]

theorem clean_text_again (text : Text) : cleanText (cleanText text) = cleanText text :=
  (clean_text_clean text).clean_text

theorem clean_text_eq_self_iff (text : Text) : cleanText text = text ↔ IsClean text :=
  ⟨fun same => same ▸ clean_text_clean text, IsClean.clean_text⟩

theorem interpret_clean_text (tagger : Tagger) (text : Text) :
    interpret tagger (cleanText text) = interpret tagger text := by
  rw [interpret, interpret, clean_text_again]

/-- The tagger, with the texts told that it is itself asked about. -/
def Tagger.noting (tagger : Tagger) : Tagger := fun text => ⟨(tagger text).value, [text]⟩

theorem interpret_noting (tagger : Tagger) (text : Text) :
    interpret tagger.noting text =
      ⟨(interpret tagger text).value, if cleanText text = [] then [] else [cleanText text]⟩ := by
  unfold interpret
  cases cleanText text <;> rfl

/-- Nothing that a tagger has to say of other texts is heard. -/
theorem interpret_congr (tagger other : Tagger) (text : Text)
    (same : cleanText text ≠ [] → other (cleanText text) = tagger (cleanText text)) :
    interpret other text = interpret tagger text := by
  unfold interpret
  by_cases empty : cleanText text = []
  · simp [empty]
  · rw [same empty]

/-- Cleaning leaves nothing that it would take off, and an address is parsed as its cleaned text is,
from what a tagger has to say of that text alone. -/
theorem parse_of_clean_text (text : Text) :
    IsClean (cleanText text) ∧ cleanText (cleanText text) = cleanText text ∧
      (cleanText text = text ↔ IsClean text) ∧
      ∀ tagger : Tagger,
        parse tagger text =
            (parse tagger (cleanText text)).map (fun parsed => { parsed with input := text }) ∧
          (parse tagger.noting text).value = (parse tagger text).value ∧
          (parse tagger.noting text).asked =
            (if cleanText text = [] then [] else [cleanText text]) ∧
          ∀ other : Tagger,
            (cleanText text ≠ [] → other (cleanText text) = tagger (cleanText text)) →
              parse other text = parse tagger text := by
  refine ⟨clean_text_clean text, clean_text_again text, clean_text_eq_self_iff text, ?_⟩
  intro tagger
  refine ⟨?factors, ?noted, ?asked, ?alone⟩
  case factors =>
    rw [parse, parse, interpret_clean_text]
    rfl
  case noted => rw [parse, parse, interpret_noting, Consulted.value_map, Consulted.value_map]
  case asked => rw [parse, interpret_noting, Consulted.asked_map]
  case alone =>
    intro other same
    rw [parse, parse, interpret_congr tagger other text same]

example : cleanText ") 12\tMain  (rear) St ((".toList = "12 Main St".toList := by decide +kernel

end PostalAddress
