import PostalAddress.Proofs.BareCrossings

/-!
Two readings of a connector. The streets of a location are joined by the first sign of the text, or
by the first word that no word character touches. A text without a location is split with more care:
a word splits it only between blanks, so that a name such as ROCK-AND-ROLL stays whole. Whatever
splits a text is a connector in the first reading, and a text is not split if its only connectors
are words at its ends or next to punctuation.
-/

namespace PostalAddress

namespace Text

/-- A connector between two parts of a text: a sign, or a word that no word character touches. -/
def IsMention (before connector behind : Text) : Prop :=
  (∃ sign, isConnectorSign sign = true ∧ connector = [sign]) ∨
    lower connector ∈ connectorWords ∧ before.getLast?.any isWordCharacter = false ∧
      behind.head?.any isWordCharacter = false

/-- A connector that is a sign or has blanks on both sides. -/
def IsSetOff (before connector behind : Text) : Prop :=
  (∃ sign, isConnectorSign sign = true ∧ connector = [sign]) ∨
    before.getLast?.any isBlank = true ∧ behind.head?.any isBlank = true

def MentionsConnector (text : Text) : Prop :=
  ∃ before connector behind, text = before ++ (connector ++ behind) ∧
    IsMention before connector behind

def SetsOffConnector (text : Text) : Prop :=
  ∃ before connector behind, text = before ++ (connector ++ behind) ∧
    IsMention before connector behind ∧ IsSetOff before connector behind

theorem blank_no_word_character (neighbour : Option Char) (blank : neighbour.any isBlank = true) :
    neighbour.any isWordCharacter = false := by
  cases neighbour with
  | none => rfl
  | some letter =>
      rw [Option.any_some] at blank ⊢
      exact blank_no_word letter blank

theorem last_blank (before gap : Text) (given : gap ≠ [])
    (blank : ∀ letter ∈ gap, isBlank letter = true) :
    (before ++ gap).getLast?.any isBlank = true := by
  rw [List.getLast?_append_of_ne_nil _ given, List.getLast?_eq_some_getLast given, Option.any_some]
  exact blank _ (List.getLast_mem given)

theorem head_blank (gap behind : Text) (given : gap ≠ [])
    (blank : ∀ letter ∈ gap, isBlank letter = true) :
    (gap ++ behind).head?.any isBlank = true := by
  obtain ⟨letter, rest, begins⟩ := List.exists_cons_of_ne_nil given
  subst begins
  exact blank letter (.head _)

theorem word_begins (space : Char) (word behind : Text) (blankBefore : isBlank space = true)
    (listed : lower word ∈ connectorWords) (blankBehind : behind.head?.any isBlank = true) :
    BeginsWithConnector (space :: (word ++ behind)) word behind.skipBlanks := by
  obtain ⟨gap, parted, gapBlank, ends⟩ := skip_blanks_parts behind
  have given : gap ≠ [] := by
    rw [parted, begins_blank_iff gap _ gapBlank ends] at blankBehind
    exact blankBehind
  refine ⟨[space], gap, ?_, ⟨by simp [blankBefore], gapBlank, .inr ⟨listed, by simp, given⟩⟩, ends⟩
  rw [← parted]
  rfl

/-- A text is split at a connector exactly if one is set off in it. -/
theorem has_connector_iff_sets_off (text : Text) : text.HasConnector ↔ text.SetsOffConnector := by
  constructor
  · intro ⟨front, rest, connector, behind, cut, gap, back, split, isConnector, _⟩
    refine ⟨front ++ gap, connector, back ++ behind, by simp [cut, split], ?_⟩
    rcases isConnector.kind with sign | ⟨word, gapGiven, backGiven⟩
    · exact ⟨.inl sign, .inl sign⟩
    · have blankBefore := last_blank front gap gapGiven isConnector.frontBlank
      have blankBehind := head_blank back behind backGiven isConnector.backBlank
      exact ⟨.inr ⟨word, blank_no_word_character _ blankBefore,
        blank_no_word_character _ blankBehind⟩, .inr ⟨blankBefore, blankBehind⟩⟩
  · intro ⟨before, connector, behind, cut, mention, setOff⟩
    have ofSign : (∃ sign, isConnectorSign sign = true ∧ connector = [sign]) →
        text.HasConnector := by
      intro ⟨sign, isSign, same⟩
      subst same
      exact ⟨before, sign :: behind, _, _, cut, sign_begins sign behind isSign⟩
    rcases mention with sign | ⟨word, _⟩
    · exact ofSign sign
    · rcases setOff with sign | ⟨blankBefore, blankBehind⟩
      · exact ofSign sign
      · obtain ⟨space, last, blank⟩ := (Option.any_eq_true _ _).1 blankBefore
        obtain ⟨front, same⟩ := List.getLast?_eq_some_iff.1 last
        exact ⟨front, space :: (connector ++ behind), _, _, by simp [cut, same],
          word_begins space connector behind blank word blankBehind⟩

theorem parts_cons {joins : Text → Text → Text → Prop} (passed : Text) (letter : Char)
    (rest : Text) :
    (∃ before connector behind, letter :: rest = before ++ (connector ++ behind) ∧
        joins (passed ++ before) connector behind) ↔
      (∃ connector behind, letter :: rest = connector ++ behind ∧ joins passed connector behind) ∨
        ∃ before connector behind, rest = before ++ (connector ++ behind) ∧
          joins (passed ++ [letter] ++ before) connector behind := by
  constructor
  · intro ⟨before, connector, behind, cut, joined⟩
    cases before with
    | nil => exact .inl ⟨connector, behind, cut, by simpa using joined⟩
    | cons head others =>
        cases cut
        exact .inr ⟨others, connector, behind, rfl, by simpa using joined⟩
  · intro parts
    rcases parts with ⟨connector, behind, cut, joined⟩ | ⟨before, connector, behind, cut, joined⟩
    · exact ⟨[], connector, behind, cut, by simpa using joined⟩
    · exact ⟨letter :: before, connector, behind, by simp [cut], by simpa using joined⟩

/-- A mention at the very start of what is left of a text, told by what is read there. -/
theorem mention_here_iff (passed : Text) (letter : Char) (rest : Text) :
    (∃ connector behind, letter :: rest = connector ++ behind ∧
        IsMention passed connector behind) ↔
      isConnectorSign letter = true ∨ passed.getLast?.any isWordCharacter = false ∧
        ∃ word behind, readConnectorWord? (letter :: rest) = some (word, behind) ∧
          behind.head?.any isWordCharacter = false := by
  constructor
  · intro ⟨connector, behind, cut, mention⟩
    rcases mention with ⟨sign, isSign, same⟩ | ⟨word, front, back⟩
    · subst same
      cases cut
      exact .inl isSign
    · have read := (read_connector_word_eq_some_iff _ connector behind).2 ⟨cut, word⟩
      exact .inr ⟨front, connector, behind, read, back⟩
  · intro here
    rcases here with isSign | ⟨front, word, behind, read, back⟩
    · exact ⟨[letter], rest, rfl, .inl ⟨letter, isSign, rfl⟩⟩
    · obtain ⟨cut, listed⟩ := (read_connector_word_eq_some_iff _ word behind).1 read
      exact ⟨word, behind, cut, .inr ⟨listed, front, back⟩⟩

/-- The search for a connector remembers of what it has passed only how it ended. -/
theorem find_connector_behind (passed text : Text) :
    (findConnector? (passed.getLast?.any isWordCharacter) text).isSome = true ↔
      ∃ before connector behind, text = before ++ (connector ++ behind) ∧
        IsMention (passed ++ before) connector behind := by
  induction text generalizing passed with
  | nil =>
      constructor
      · intro impossible
        cases impossible
      · intro ⟨before, connector, behind, cut, mention⟩
        obtain ⟨_, rest⟩ := List.append_eq_nil_iff.1 cut.symm
        obtain ⟨empty, _⟩ := List.append_eq_nil_iff.1 rest
        subst empty
        rcases mention with ⟨_, _, impossible⟩ | ⟨impossible, _⟩
        · cases impossible
        · exact absurd impossible (by decide)
  | cons letter rest induction =>
      have later := induction (passed ++ [letter])
      rw [List.getLast?_concat, Option.any_some] at later
      rw [parts_cons passed letter rest, mention_here_iff, ← later, findConnector?]
      cases isSign : isConnectorSign letter with
      | true => simp
      | false =>
          cases read : readConnectorWord? (letter :: rest) with
          | none => simp
          | some parts =>
              obtain ⟨word, behind⟩ := parts
              cases front : passed.getLast?.any isWordCharacter <;>
                cases back : behind.head?.any isWordCharacter <;> simp [back]

theorem find_connector_iff (text : Text) :
    (findConnector? false text).isSome = true ↔ text.MentionsConnector :=
  find_connector_behind [] text

instance (text : Text) : Decidable text.MentionsConnector :=
  decidable_of_iff _ (find_connector_iff text)

instance (text : Text) : Decidable text.SetsOffConnector :=
  decidable_of_iff _ (has_connector_iff_sets_off text)

end Text

theorem CrossingTokens.tokens_ne_nil (crossing : CrossingTokens) : crossing.tokens ≠ [] := by
  simp [tokens]

/-- A text without a location is an intersection exactly if a connector is set off in it, and has
tokens only then. -/
theorem unlocated_intersection_iff (locate : Locator) (text : Text)
    (solid : text.isAllBlank = false) (single : DualNumber.ofText? text = none)
    (unread : locate text = none) :
    let tagging := (Tagger.locating locate text).value
    ((∃ tokens, tagging = .parsed .intersection tokens) ↔ text.SetsOffConnector) ∧
      (tagging.tokens = [] ↔ ¬text.SetsOffConnector) := by
  intro tagging
  have tagged : tagging = .parsed (Tagger.tagUnlocated text).1 (Tagger.tagUnlocated text).2 :=
    Tagger.locating_unlocated locate text solid single unread
  rw [← text.has_connector_iff_sets_off, tagged]
  by_cases crossed : text.HasConnector
  · obtain ⟨crossing, read⟩ := text.has_connector_iff.1 crossed
    rw [Tagger.tag_unlocated_crossing text crossing read]
    simp [crossed, Tagging.tokens, crossing.parts.tokens_ne_nil]
  · have whole := (Crossing.of_text_eq_none_iff text).2 crossed
    rw [Tagger.tagUnlocated, bareIntersectionTokens?, whole]
    simp [crossed, Tagging.tokens]

theorem hollywood_and_vine_set_off :
    let text : Text := "Hollywood Blvd and Vine St".toList
    text.isAllBlank = false ∧ DualNumber.ofText? text = none ∧
      ∃ tokens, (Tagger.locating (fun _ => none) text).value = .parsed .intersection tokens := by
  intro text
  have solid : text.isAllBlank = false := by decide +kernel
  have single : DualNumber.ofText? text = none := by decide +kernel
  have setOff : text.SetsOffConnector := by decide +kernel
  exact ⟨solid, single, (unlocated_intersection_iff _ text solid single rfl).1.2 setOff⟩

theorem rock_and_roll_stays_whole :
    let text : Text := "Rock-and-Roll Blvd".toList
    text.isAllBlank = false ∧ DualNumber.ofText? text = none ∧ text.MentionsConnector ∧
      (Tagger.locating (fun _ => none) text).value = .parsed .streetAddress [] := by
  decide +kernel

end PostalAddress
