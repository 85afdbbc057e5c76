import PostalAddress.Connector
import PostalAddress.Proofs.SolidText

/-!
Where a text is split at a connector. A connector is told by what stands around it: a word needs
blanks on both sides, a sign needs none, and all the blanks around either belong to it. A text is
split at the first place where one begins, and stays whole only if none begins anywhere.
-/

namespace PostalAddress

namespace Text

theorem read_word_eq_some_iff (word text written behind : Text) :
    readWord? word text = some (written, behind) ↔
      text = written ++ behind ∧ lower written = word := by
  constructor
  · exact read_word_append word text written behind
  · intro ⟨parted, lowered⟩
    subst parted lowered
    induction written with
    | nil => rfl
    | cons letter rest induction =>
        change readWord? (asciiLower letter :: lower rest) (letter :: (rest ++ behind)) = _
        rw [readWord?, if_pos rfl, induction]
        rfl

def connectorWords : List Text := ["and".toList, "at".toList]

theorem read_connector_word_eq_some_iff (text word behind : Text) :
    readConnectorWord? text = some (word, behind) ↔
      text = word ++ behind ∧ lower word ∈ connectorWords := by
  rw [readConnectorWord?, Option.or_eq_some_iff, read_word_eq_some_iff, read_word_eq_some_iff]
  constructor
  · intro read
    rcases read with ⟨parted, same⟩ | ⟨_, parted, same⟩
    · exact ⟨parted, same ▸ by decide⟩
    · exact ⟨parted, same ▸ by decide⟩
  · intro ⟨parted, listed⟩
    rcases List.mem_pair.1 listed with same | same
    · exact .inl ⟨parted, same⟩
    · right
      refine ⟨?_, parted, same⟩
      cases read : readWord? "and".toList text with
      | none => rfl
      | some other =>
          obtain ⟨otherParted, otherSame⟩ := read_word_append _ _ other.1 other.2 read
          -- The two words differ in their second letters.
          have both := congrArg lower (parted.symm.trans otherParted)
          have apart : ∀ left right : Text,
              "at".toList ++ left ≠ "and".toList ++ right := by simp
          rw [lower, lower, List.map_append, List.map_append, ← lower, ← lower, ← lower, same,
            otherSame] at both
          exact absurd both (apart _ _)

structure IsConnector (front connector back : Text) : Prop where
  frontBlank : ∀ letter ∈ front, isBlank letter = true
  backBlank : ∀ letter ∈ back, isBlank letter = true
  kind : (∃ sign, isConnectorSign sign = true ∧ connector = [sign]) ∨
    lower connector ∈ connectorWords ∧ front ≠ [] ∧ back ≠ []

/-- A text with a connector and all the blanks around it in front. -/
def BeginsWithConnector (text connector behind : Text) : Prop :=
  ∃ front back, text = front ++ (connector ++ (back ++ behind)) ∧
    IsConnector front connector back ∧ ∀ letter ∈ behind.head?, isBlank letter = false

theorem connector_sign_solid (sign : Char) (isSign : isConnectorSign sign = true) :
    isBlank sign = false := by
  have signs : sign = '&' ∨ sign = '@' := by simpa [isConnectorSign] using isSign
  rcases signs with same | same <;> subst same <;> decide

theorem connector_word_begins (word : Text) (listed : lower word ∈ connectorWords) :
    ∃ letter rest, word = letter :: rest ∧ asciiLower letter = 'a' := by
  cases word with
  | nil => exact absurd listed (by decide)
  | cons letter rest =>
      refine ⟨letter, rest, rfl, ?_⟩
      rcases List.mem_pair.1 listed with same | same
      · exact (List.cons.inj same).1
      · exact (List.cons.inj same).1

theorem ascii_lower_solid (letter : Char) (same : asciiLower letter = 'a') :
    isBlank letter = false :=
  letter_solid letter (letter_of_lower letter 'a' same (by decide))

/-- A connector begins with a letter or a sign, so no blank in front of it belongs to it. -/
theorem IsConnector.begins {front connector back : Text}
    (isConnector : IsConnector front connector back) :
    ∃ letter rest, connector = letter :: rest ∧ isBlank letter = false := by
  rcases isConnector.kind with ⟨sign, isSign, same⟩ | ⟨listed, _⟩
  · exact ⟨sign, [], same, connector_sign_solid sign isSign⟩
  · obtain ⟨letter, rest, same, lowered⟩ := connector_word_begins connector listed
    exact ⟨letter, rest, same, ascii_lower_solid letter lowered⟩

theorem skip_blanks_append (front rest : Text) (blank : ∀ letter ∈ front, isBlank letter = true)
    (solid : ∀ letter ∈ rest.head?, isBlank letter = false) :
    skipBlanks (front ++ rest) = rest :=
  drop_while_append isBlank front rest blank solid

theorem skip_blanks_parts (text : Text) :
    ∃ front, text = front ++ skipBlanks text ∧ (∀ letter ∈ front, isBlank letter = true) ∧
      ∀ letter ∈ (skipBlanks text).head?, isBlank letter = false :=
  ⟨text.takeWhile isBlank, List.takeWhile_append_dropWhile.symm,
    fun _ member => List.mem_takeWhile_imp member, head_drop_while_not isBlank text⟩

theorem begins_blank_iff (front rest : Text) (blank : ∀ letter ∈ front, isBlank letter = true)
    (solid : ∀ letter ∈ rest.head?, isBlank letter = false) :
    (front ++ rest).head?.any isBlank = true ↔ front ≠ [] := by
  cases front with
  | cons letter others => simp [blank letter (.head _)]
  | nil =>
      cases rest with
      | nil => simp
      | cons letter others => simp [solid letter rfl]

theorem sign_no_connector_word (sign : Char) (rest : Text)
    (isSign : isConnectorSign sign = true) : readConnectorWord? (sign :: rest) = none := by
  have signs : sign = '&' ∨ sign = '@' := by simpa [isConnectorSign] using isSign
  rcases signs with same | same <;> subst same <;> rfl

/-- Nothing but a connector with the blanks around it is read as one. -/
theorem begins_of_read (text connector behind : Text)
    (read : readConnector? text = some (connector, behind)) :
    text.BeginsWithConnector connector behind := by
  obtain ⟨front, parted, frontBlank, frontEnds⟩ := skip_blanks_parts text
  rw [readConnector?] at read
  split at read
  case h_1 word after word? =>
    obtain ⟨skipped, listed⟩ := (read_connector_word_eq_some_iff _ word after).1 word?
    obtain ⟨back, afterParted, backBlank, backEnds⟩ := skip_blanks_parts after
    rw [Option.ite_none_right_eq_some, Bool.and_eq_true] at read
    obtain ⟨⟨blankBefore, blankBehind⟩, same⟩ := read
    cases same
    rw [parted, begins_blank_iff front _ frontBlank frontEnds] at blankBefore
    rw [afterParted, begins_blank_iff back _ backBlank backEnds] at blankBehind
    refine ⟨front, back, ?_, ⟨frontBlank, backBlank, .inr ⟨listed, blankBefore, blankBehind⟩⟩,
      backEnds⟩
    rw [← afterParted, ← skipped, ← parted]
  case h_2 =>
    split at read
    case h_2 => cases read
    case h_1 sign after skipped =>
      obtain ⟨back, afterParted, backBlank, backEnds⟩ := skip_blanks_parts after
      rw [Option.ite_none_right_eq_some] at read
      obtain ⟨isSign, same⟩ := read
      cases same
      refine ⟨front, back, ?_, ⟨frontBlank, backBlank, .inl ⟨sign, isSign, rfl⟩⟩, backEnds⟩
      rw [← afterParted, List.singleton_append, ← skipped, ← parted]

theorem read_of_begins (text connector behind : Text)
    (begins : text.BeginsWithConnector connector behind) :
    readConnector? text = some (connector, behind) := by
  obtain ⟨front, back, parted, isConnector, ends⟩ := begins
  obtain ⟨letter, rest, begins, solid⟩ := isConnector.begins
  have connectorEnds : ∀ other ∈ (connector ++ (back ++ behind)).head?, isBlank other = false := by
    rw [begins]
    intro other member
    cases member
    exact solid
  have skipped : skipBlanks text = connector ++ (back ++ behind) := by
    rw [parted, skip_blanks_append front _ isConnector.frontBlank connectorEnds]
  have skippedBehind := skip_blanks_append back behind isConnector.backBlank ends
  rw [readConnector?, skipped]
  rcases isConnector.kind with ⟨sign, isSign, same⟩ | ⟨listed, frontGiven, backGiven⟩
  · subst same
    rw [List.singleton_append, sign_no_connector_word sign _ isSign]
    simp only [isSign, if_true, skippedBehind]
  · have blankBefore := (begins_blank_iff front _ isConnector.frontBlank connectorEnds).2 frontGiven
    have blankBehind := (begins_blank_iff back _ isConnector.backBlank ends).2 backGiven
    rw [← parted] at blankBefore
    rw [(read_connector_word_eq_some_iff _ connector _).2 ⟨rfl, listed⟩]
    simp only [blankBefore, blankBehind, Bool.and_self, if_true, skippedBehind]

theorem nothing_begins (connector behind : Text) : ¬BeginsWithConnector [] connector behind := by
  intro begins
  have read := read_of_begins [] connector behind begins
  cases read

theorem sign_begins (sign : Char) (rest : Text) (isSign : isConnectorSign sign = true) :
    BeginsWithConnector (sign :: rest) [sign] rest.skipBlanks := by
  obtain ⟨back, parted, backBlank, ends⟩ := skip_blanks_parts rest
  refine ⟨[], back, ?_, ⟨by simp, backBlank, .inl ⟨sign, isSign, rfl⟩⟩, ends⟩
  rw [← parted]
  rfl

end Text

namespace Crossing

/-- The text is split at the first place where a connector begins. -/
structure IsFirstIn (crossing : Crossing) (text : Text) : Prop where
  cut : ∃ rest, text = crossing.before ++ rest ∧
    rest.BeginsWithConnector crossing.connector crossing.behind
  first : ∀ front rest connector behind, text = front ++ rest →
    front.length < crossing.before.length → ¬Text.BeginsWithConnector rest connector behind

theorem first_here (text connector behind : Text)
    (begins : text.BeginsWithConnector connector behind) (crossing : Crossing) :
    crossing.IsFirstIn text ↔ crossing = ⟨[], connector, behind⟩ := by
  constructor
  · intro first
    have empty : crossing.before = [] := by
      by_contra given
      have ahead := List.length_pos_of_ne_nil given
      exact first.first [] text connector behind rfl ahead begins
    obtain ⟨rest, parted, other⟩ := first.cut
    rw [empty, List.nil_append] at parted
    subst parted
    have same := (Text.read_of_begins _ _ _ other).symm.trans
      (Text.read_of_begins _ _ _ begins)
    cases crossing
    cases same
    cases empty
    rfl
  · intro same
    subst same
    refine ⟨⟨text, rfl, begins⟩, ?_⟩
    intro front rest _ _ _ shorter
    exact absurd shorter (Nat.not_lt_zero _)

theorem first_later (head : Char) (rest : Text)
    (none : ∀ connector behind, ¬Text.BeginsWithConnector (head :: rest) connector behind)
    (crossing : Crossing) :
    crossing.IsFirstIn (head :: rest) ↔ ∃ later : Crossing, later.IsFirstIn rest ∧
      ⟨head :: later.before, later.connector, later.behind⟩ = crossing := by
  constructor
  · intro first
    obtain ⟨part, parted, begins⟩ := first.cut
    cases crossing with
    | mk before connector behind =>
        cases before with
        | nil =>
            subst parted
            exact absurd begins (none _ _)
        | cons letter others =>
            cases parted
            refine ⟨⟨others, connector, behind⟩, ⟨⟨part, rfl, begins⟩, ?_⟩, rfl⟩
            intro front tail other otherBehind split shorter
            exact first.first (head :: front) tail other otherBehind
              (congrArg (head :: ·) split) (Nat.succ_lt_succ shorter)
  · intro ⟨later, first, same⟩
    subst same
    obtain ⟨part, parted, begins⟩ := first.cut
    refine ⟨⟨part, congrArg (head :: ·) parted, begins⟩, ?_⟩
    intro front tail other otherBehind split shorter
    cases front with
    | nil =>
        cases split
        exact none other otherBehind
    | cons letter others =>
        cases split
        exact first.first others tail other otherBehind rfl (Nat.lt_of_succ_lt_succ shorter)

/-- Reading a text finds the first connector in it. -/
theorem of_text_eq_some_iff (text : Text) (crossing : Crossing) :
    ofText? text = some crossing ↔ crossing.IsFirstIn text := by
  induction text generalizing crossing with
  | nil =>
      constructor
      · intro impossible
        cases impossible
      · intro first
        obtain ⟨rest, parted, begins⟩ := first.cut
        rw [(List.append_eq_nil_iff.1 parted.symm).2] at begins
        exact absurd begins (Text.nothing_begins _ _)
  | cons head rest induction =>
      rw [of_text_cons]
      cases read : readConnector? (head :: rest) with
      | some found =>
          rw [first_here _ _ _ (Text.begins_of_read _ _ _ read)]
          simp only [Option.some.injEq, eq_comm]
      | none =>
          have none (connector behind : Text) :
              ¬Text.BeginsWithConnector (head :: rest) connector behind := by
            intro begins
            rw [Text.read_of_begins _ _ _ begins] at read
            cases read
          rw [first_later head rest none]
          simp only [Option.map_eq_some_iff, induction]

end Crossing

def Text.HasConnector (text : Text) : Prop :=
  ∃ front rest connector behind, text = front ++ rest ∧ BeginsWithConnector rest connector behind

theorem Crossing.of_text_eq_none_iff (text : Text) : ofText? text = none ↔ ¬text.HasConnector := by
  constructor
  · intro whole ⟨front, rest, connector, behind, parted, begins⟩
    induction text generalizing front with
    | nil =>
        rw [(List.append_eq_nil_iff.1 parted.symm).2] at begins
        exact Text.nothing_begins _ _ begins
    | cons head others induction =>
        rw [of_text_cons] at whole
        cases read : readConnector? (head :: others) with
        | some found =>
            rw [read] at whole
            cases whole
        | none =>
            rw [read] at whole
            cases front with
            | nil =>
                cases parted
                rw [Text.read_of_begins _ _ _ begins] at read
                cases read
            | cons letter tail =>
                cases parted
                exact induction (Option.map_eq_none_iff.1 whole) tail rfl
  · intro lacking
    cases cut : ofText? text with
    | none => rfl
    | some crossing =>
        obtain ⟨rest, parted, begins⟩ := ((of_text_eq_some_iff text crossing).1 cut).cut
        exact absurd ⟨_, rest, _, _, parted, begins⟩ lacking

/-- A text with connectors has a first one. -/
theorem Text.has_connector_iff (text : Text) :
    text.HasConnector ↔ ∃ crossing, Crossing.ofText? text = some crossing := by
  rw [← Option.ne_none_iff_exists', ne_eq, Crossing.of_text_eq_none_iff, not_not]

instance (text : Text) : Decidable text.HasConnector :=
  decidable_of_iff ((Crossing.ofText? text).isSome = true)
    (by rw [Option.isSome_iff_exists, Text.has_connector_iff])

instance (text : Text) (crossing : Crossing) : Decidable (crossing.IsFirstIn text) :=
  decidable_of_iff _ (Crossing.of_text_eq_some_iff text crossing)

example : Text.HasConnector "Main AT Elm".toList ∧ Text.HasConnector "Main@Elm".toList ∧
    ¬Text.HasConnector "Main St.and Elm".toList := by
  decide +kernel

end PostalAddress
