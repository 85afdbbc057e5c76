import PostalAddress.Proofs.FirstConnector
import PostalAddress.Proofs.LocatedAddress
import PostalAddress.Proofs.StreetTokens

/-!
Two house numbers on one street. A text is one in at most one way: where a letter behind the first
number might begin the connector, only one of the two readings goes on. Such a text is ambiguous
whatever the locator answers about its second number, and the two numbers become a range.
-/

namespace PostalAddress

theorem letter_no_digit (letter : Char) (lettered : isLetter letter = true) :
    isDigit letter = false := by
  by_contra digit
  obtain ⟨_, most⟩ := digit_point letter (by simpa using digit)
  simp only [isLetter, isLower, isUpper, Bool.or_eq_true, Bool.and_eq_true,
    decide_eq_true_eq] at lettered
  rcases lettered with ⟨least, _⟩ | ⟨least, _⟩
  · have point : 97 ≤ letter.toNat := least
    omega
  · have point : 65 ≤ letter.toNat := least
    omega

/-- What is no letter is in lower case only if it was written so. -/
theorem lower_no_letter (written lowered : Char) (same : asciiLower written = lowered)
    (other : isLetter lowered = false) : written = lowered := by
  cases upper : isUpper written with
  | false => rwa [asciiLower, upper] at same
  | true =>
      have bounds : 65 ≤ written.toNat ∧ written.toNat ≤ 90 := by
        simp only [isUpper, Bool.and_eq_true, decide_eq_true_eq] at upper
        exact upper
      have valid : (written.toNat + 32).isValidChar := Or.inl (by omega)
      have point : lowered.toNat = written.toNat + 32 := by
        rw [← same, asciiLower, if_pos upper]
        exact Text.point_of_valid _ valid
      have least : 97 ≤ lowered.toNat := by omega
      have most : lowered.toNat ≤ 122 := by omega
      have low : isLower lowered = true := by
        rw [isLower, Bool.and_eq_true, decide_eq_true_eq, decide_eq_true_eq]
        exact ⟨least, most⟩
      simp [isLetter, low] at other

namespace Text

def IsLetteredNumber (number : Text) : Prop :=
  ∃ digits mark, number = digits ++ mark ∧ digits ≠ [] ∧ (∀ digit ∈ digits, isDigit digit = true) ∧
    mark.length ≤ 1 ∧ ∀ letter ∈ mark, isLetter letter = true

def IsNumberedStreet (text : Text) : Prop :=
  ∃ number gap street, text = number ++ (gap ++ street) ∧ number.IsLetteredNumber ∧
    gap ≠ [] ∧ (∀ letter ∈ gap, isBlank letter = true) ∧
    street ≠ [] ∧ (∀ letter ∈ street.head?, isBlank letter = false) ∧
    ∀ letter ∈ street, isLineEnd letter = false

/-- The sign "&" or the word AND in any case. -/
def JoinsNumbers (connector : Text) : Prop := connector = ['&'] ∨ lower connector = "and".toList

/-- What stands behind a first house number. The connector needs no blanks around it. -/
def Continues (connector remainder text : Text) : Prop :=
  ∃ front back, text = front ++ (connector ++ (back ++ remainder)) ∧
    (∀ letter ∈ front, isBlank letter = true) ∧ (∀ letter ∈ back, isBlank letter = true) ∧
    connector.JoinsNumbers ∧ remainder.IsNumberedStreet

end Text

/-- Two house numbers in front of one street, as they are written. -/
def DualNumber.WrittenAs (dual : DualNumber) (text : Text) : Prop :=
  ∃ lead behind, text = lead ++ (dual.number ++ behind) ∧
    (∀ letter ∈ lead, isBlank letter = true) ∧ dual.number.IsLetteredNumber ∧
    Text.Continues dual.connector dual.remainder behind

namespace Text

theorem IsLetteredNumber.solid {number : Text} (lettered : number.IsLetteredNumber) :
    number ≠ [] ∧ ∀ letter ∈ number, isBlank letter = false := by
  obtain ⟨digits, mark, rfl, given, numeric, _, letters⟩ := lettered
  refine ⟨by simp [given], fun letter member => ?_⟩
  rcases List.mem_append.1 member with inDigits | inMark
  · exact digit_solid letter (numeric letter inDigits)
  · exact letter_solid letter (letters letter inMark)

theorem IsLetteredNumber.begins {number : Text} (lettered : number.IsLetteredNumber) :
    ∃ digit rest, number = digit :: rest ∧ isBlank digit = false := by
  obtain ⟨given, solid⟩ := lettered.solid
  obtain ⟨digit, rest, rfl⟩ := List.exists_cons_of_ne_nil given
  exact ⟨digit, rest, rfl, solid digit (.head _)⟩

theorem IsNumberedStreet.begins {text : Text} (numbered : text.IsNumberedStreet) :
    ∃ digit rest, text = digit :: rest ∧ isBlank digit = false := by
  obtain ⟨number, gap, street, rfl, lettered, _⟩ := numbered
  obtain ⟨digit, rest, rfl, solid⟩ := lettered.begins
  exact ⟨digit, _, rfl, solid⟩

theorem joins_numbers_begins {connector : Text} (joins : connector.JoinsNumbers) :
    ∃ letter rest, connector = letter :: rest ∧ isBlank letter = false := by
  rcases joins with rfl | lowered
  · exact ⟨'&', [], rfl, by decide⟩
  · cases connector with
    | nil => cases lowered
    | cons letter rest =>
        exact ⟨letter, rest, rfl, ascii_lower_solid letter (List.cons.inj lowered).1⟩

theorem drop_letter_iff (text rest : Text) (ends : ∀ letter ∈ rest.head?, isLetter letter = false) :
    (if text.head?.any isLetter then text.drop 1 else text) = rest ↔
      ∃ mark, text = mark ++ rest ∧ mark.length ≤ 1 ∧ ∀ letter ∈ mark, isLetter letter = true := by
  constructor
  · intro dropped
    split at dropped
    case isTrue lettered =>
      obtain ⟨letter, begins, taken⟩ := (Option.any_eq_true _ _).1 lettered
      obtain ⟨others, rfl⟩ := List.head?_eq_some_iff.1 begins
      cases dropped
      exact ⟨[letter], rfl, le_rfl, List.forall_mem_singleton.2 taken⟩
    case isFalse =>
      exact ⟨[], dropped, Nat.zero_le 1, by simp⟩
  · rintro ⟨mark, rfl, short, letters⟩
    cases mark with
    | nil =>
        apply if_neg
        rw [Option.any_eq_true]
        rintro ⟨letter, begins, lettered⟩
        rw [ends letter begins] at lettered
        cases lettered
    | cons letter others =>
        obtain rfl : others = [] := by simpa using short
        exact if_pos (letters letter (.head _))

theorem gap_begins (gap behind : Text) (given : gap ≠ [])
    (blank : ∀ letter ∈ gap, isBlank letter = true) :
    ∀ letter ∈ (gap ++ behind).head?, isLetter letter = false ∧ isDigit letter = false := by
  obtain ⟨first, others, rfl⟩ := List.exists_cons_of_ne_nil given
  rintro _ ⟨⟩
  have noWord := blank_no_word first (blank first (.head _))
  simp only [isWordCharacter, Bool.or_eq_false_iff] at noWord
  exact noWord.1

theorem numbered_street_iff (text : Text) :
    DualNumber.startsNumberedStreet text = true ↔ text.IsNumberedStreet := by
  rw [DualNumber.startsNumberedStreet]
  constructor
  · intro numbered
    split at numbered
    case h_1 => cases numbered
    case h_2 digits rest read =>
      obtain ⟨rfl, given, numeric, _⟩ := (read_digits_eq_some_iff _ digits rest).1 read
      generalize unmarked : (if rest.head?.any isLetter then rest.drop 1 else rest) = behind
        at numbered
      obtain ⟨gap, parted, blank, begins⟩ := skip_blanks_parts behind
      simp only [Bool.and_eq_true, Bool.not_eq_true', List.isEmpty_eq_false_iff,
        List.any_eq_false, Bool.not_eq_true] at numbered
      obtain ⟨⟨gapGiven, streetGiven⟩, oneLine⟩ := numbered
      rw [parted, begins_blank_iff gap _ blank begins] at gapGiven
      obtain ⟨mark, rfl, short, letters⟩ := (drop_letter_iff rest behind (by
        rw [parted]
        exact fun letter first => (gap_begins gap _ gapGiven blank letter first).1)).1 unmarked
      exact ⟨digits ++ mark, gap, skipBlanks behind, by rw [← parted, List.append_assoc],
        ⟨digits, mark, rfl, given, numeric, short, letters⟩, gapGiven, blank, streetGiven, begins,
        oneLine⟩
  · rintro ⟨_, gap, street, rfl, ⟨digits, mark, rfl, given, numeric, short, letters⟩, gapGiven,
      blank, streetGiven, begins, oneLine⟩
    have ends := gap_begins gap street gapGiven blank
    have read : readDigits? (digits ++ (mark ++ (gap ++ street))) =
        some (digits, mark ++ (gap ++ street)) := by
      refine (read_digits_eq_some_iff _ _ _).2 ⟨rfl, given, numeric, ?_⟩
      cases mark with
      | nil => exact fun letter first => (ends letter first).2
      | cons letter others =>
          rintro _ ⟨⟩
          exact letter_no_digit letter (letters letter (.head _))
    have unmarked := (drop_letter_iff (mark ++ (gap ++ street)) (gap ++ street)
      (fun letter first => (ends letter first).1)).2 ⟨mark, rfl, short, letters⟩
    rw [List.append_assoc, read]
    simp only [unmarked, skip_blanks_append gap street blank begins,
      (begins_blank_iff gap street blank begins).2 gapGiven, Bool.true_and, Bool.and_eq_true,
      Bool.not_eq_true', List.isEmpty_eq_false_iff, List.any_eq_false, Bool.not_eq_true]
    exact ⟨streetGiven, oneLine⟩

theorem read_joining_iff (text connector behind : Text) :
    (readWord? ['&'] text).or (readWord? "and".toList text) = some (connector, behind) ↔
      text = connector ++ behind ∧ connector.JoinsNumbers := by
  have sign (written : Text) : lower written = ['&'] ↔ written = ['&'] := by
    constructor
    · intro lowered
      cases written with
      | nil => cases lowered
      | cons letter rest =>
          obtain ⟨same, none⟩ := List.cons.inj lowered
          rw [lower_no_letter letter '&' same (by decide), List.map_eq_nil_iff.1 none]
    · rintro rfl
      rfl
  rw [Option.or_eq_some_iff, read_word_eq_some_iff, read_word_eq_some_iff, sign]
  constructor
  · rintro (⟨parted, same⟩ | ⟨_, parted, lowered⟩)
    · exact ⟨parted, .inl same⟩
    · exact ⟨parted, .inr lowered⟩
  · rintro ⟨rfl, same | lowered⟩
    · exact .inl ⟨rfl, same⟩
    · refine .inr ⟨?_, rfl, lowered⟩
      cases read : readWord? ['&'] (connector ++ behind) with
      | none => rfl
      | some other =>
          obtain ⟨parted, same⟩ := (read_word_eq_some_iff _ _ other.1 other.2).1 read
          rw [(sign other.1).1 same] at parted
          cases connector with
          | nil => cases lowered
          | cons letter rest =>
              obtain ⟨rfl, _⟩ := List.cons.inj parted
              exact absurd (List.cons.inj lowered).1 (by decide)

theorem of_number_eq_some_iff (number text : Text) (dual : DualNumber) :
    DualNumber.ofNumber? number text = some dual ↔
      dual.number = number ∧ Continues dual.connector dual.remainder text := by
  simp only [DualNumber.ofNumber?, Option.bind_eq_bind, Option.bind_eq_some_iff, Prod.exists,
    Option.ite_none_right_eq_some, Option.some.injEq, read_joining_iff, numbered_street_iff]
  constructor
  · rintro ⟨connector, behind, ⟨parted, joins⟩, numbered, rfl⟩
    obtain ⟨front, frontParted, frontBlank, _⟩ := skip_blanks_parts text
    obtain ⟨back, backParted, backBlank, _⟩ := skip_blanks_parts behind
    refine ⟨rfl, front, back, ?_, frontBlank, backBlank, joins, numbered⟩
    rw [← backParted, ← parted, ← frontParted]
  · rintro ⟨rfl, front, back, rfl, frontBlank, backBlank, joins, numbered⟩
    obtain ⟨letter, rest, begins, solid⟩ := joins_numbers_begins joins
    obtain ⟨digit, others, starts, digitSolid⟩ := numbered.begins
    have skipped : skipBlanks (back ++ dual.remainder) = dual.remainder := by
      apply skip_blanks_append back _ backBlank
      rw [starts]
      rintro _ ⟨⟩
      exact digitSolid
    refine ⟨dual.connector, back ++ dual.remainder, ⟨?_, joins⟩, ?_, ?_⟩
    · apply skip_blanks_append front _ frontBlank
      rw [begins]
      rintro _ ⟨⟩
      exact solid
    · rwa [skipped]
    · rw [skipped]

theorem continues_begins {connector remainder text : Text}
    (continues : Continues connector remainder text) :
    ∃ letter rest, text = letter :: rest ∧ isDigit letter = false := by
  obtain ⟨front, back, rfl, blank, _, joins, _⟩ := continues
  by_cases given : front = []
  · subst given
    rcases joins with rfl | lowered
    · exact ⟨'&', _, rfl, by decide⟩
    · obtain ⟨letter, rest, rfl, low, _⟩ := List.map_eq_cons_iff.1 lowered
      exact ⟨letter, _, rfl, letter_no_digit letter (letter_of_lower letter 'a' low (by decide))⟩
  · obtain ⟨letter, others, rfl⟩ := List.exists_cons_of_ne_nil given
    exact ⟨letter, _, rfl, (gap_begins _ [] given blank letter rfl).2⟩

/-- Where a letter begins what follows the first number, it begins the word AND. -/
theorem continues_letter (connector remainder rest : Text) (letter : Char)
    (continues : Continues connector remainder (letter :: rest))
    (lettered : isLetter letter = true) :
    asciiLower letter = 'a' ∧ ∃ next others, rest = next :: others ∧ asciiLower next = 'n' := by
  obtain ⟨front, back, parted, frontBlank, _, joins, _⟩ := continues
  have noFront : front = [] := by
    cases front with
    | nil => rfl
    | cons first others =>
        have solid := letter_solid letter lettered
        rw [(List.cons.inj parted).1, frontBlank first (.head _)] at solid
        cases solid
  rw [noFront, List.nil_append] at parted
  rcases joins with rfl | lowered
  · rw [(List.cons.inj parted).1] at lettered
    exact absurd lettered (by decide)
  · change lower connector = ['a', 'n', 'd'] at lowered
    obtain ⟨first, others, rfl, firstLow, lowered⟩ := List.map_eq_cons_iff.1 lowered
    obtain ⟨next, last, rfl, nextLow, _⟩ := List.map_eq_cons_iff.1 lowered
    obtain ⟨same, rfl⟩ := List.cons.inj parted
    exact ⟨same ▸ firstLow, next, _, rfl, nextLow⟩

/-- A letter behind the digits is not a part of the number and of the connector both. -/
theorem continues_once (connector remainder rest : Text) (letter : Char)
    (continues : Continues connector remainder (letter :: rest)) (lettered : isLetter letter = true)
    (other further : Text) : ¬Continues other further rest := by
  intro again
  obtain ⟨_, next, others, rfl, lowN⟩ := continues_letter _ _ rest letter continues lettered
  have nextLetter := letter_of_lower next 'n' lowN (by decide)
  obtain ⟨lowA, _⟩ := continues_letter _ _ others next again nextLetter
  rw [lowN] at lowA
  exact absurd lowA (by decide)

end Text

theorem DualNumber.of_text_digits (lead digits : Text) (letter : Char) (behind : Text)
    (blank : ∀ letter ∈ lead, isBlank letter = true) (given : digits ≠ [])
    (numeric : ∀ digit ∈ digits, isDigit digit = true) (ends : isDigit letter = false) :
    ofText? (lead ++ (digits ++ letter :: behind)) =
      if isLetter letter then
        (ofNumber? (digits ++ [letter]) behind).or (ofNumber? digits (letter :: behind))
      else ofNumber? digits (letter :: behind) := by
  have skipped : Text.skipBlanks (lead ++ (digits ++ letter :: behind)) =
      digits ++ letter :: behind := by
    apply Text.skip_blanks_append lead _ blank
    obtain ⟨digit, others, rfl⟩ := List.exists_cons_of_ne_nil given
    rintro _ ⟨⟩
    exact digit_solid digit (numeric digit (.head _))
  have read : Text.readDigits? (digits ++ letter :: behind) = some (digits, letter :: behind) := by
    refine (Text.read_digits_eq_some_iff _ _ _).2 ⟨rfl, given, numeric, ?_⟩
    rintro _ ⟨⟩
    exact ends
  rw [ofText?, skipped, read]
  rfl

/-- It makes no difference that a letter behind the digits is tried as a part of the number first:
nothing is read in both ways. -/
theorem DualNumber.marked_or_plain (digits : Text) (letter : Char) (behind : Text)
    (dual : DualNumber) :
    (if isLetter letter then
        (ofNumber? (digits ++ [letter]) behind).or (ofNumber? digits (letter :: behind))
      else ofNumber? digits (letter :: behind)) = some dual ↔
      isLetter letter = true ∧ ofNumber? (digits ++ [letter]) behind = some dual ∨
        ofNumber? digits (letter :: behind) = some dual := by
  split
  case isFalse noLetter => simp [noLetter]
  case isTrue lettered =>
    have apart (plain : ofNumber? digits (letter :: behind) = some dual) :
        ofNumber? (digits ++ [letter]) behind = none := by
      obtain ⟨_, continues⟩ := (Text.of_number_eq_some_iff _ _ dual).1 plain
      cases marked : ofNumber? (digits ++ [letter]) behind with
      | none => rfl
      | some other =>
          obtain ⟨_, again⟩ := (Text.of_number_eq_some_iff _ _ other).1 marked
          exact absurd again (Text.continues_once _ _ behind letter continues lettered _ _)
    rw [Option.or_eq_some_iff]
    constructor
    · rintro (marked | ⟨_, plain⟩)
      · exact .inl ⟨lettered, marked⟩
      · exact .inr plain
    · rintro (⟨_, marked⟩ | plain)
      · exact .inl marked
      · exact .inr ⟨apart plain, plain⟩

/-- Nothing but two house numbers in front of one street is read as such, and in one way. -/
theorem DualNumber.of_text_eq_some_iff (text : Text) (dual : DualNumber) :
    ofText? text = some dual ↔ dual.WrittenAs text := by
  constructor
  · intro read
    simp only [ofText?, Option.bind_eq_bind, Option.bind_eq_some_iff, Prod.exists] at read
    obtain ⟨digits, rest, readDigits, read⟩ := read
    obtain ⟨lead, parted, leadBlank, _⟩ := Text.skip_blanks_parts text
    obtain ⟨split, given, numeric, _⟩ := (Text.read_digits_eq_some_iff _ _ _).1 readDigits
    rw [split] at parted
    cases rest with
    | nil => cases read
    | cons letter behind =>
        rcases (marked_or_plain digits letter behind dual).1 read with ⟨lettered, marked⟩ | plain
        · obtain ⟨number, continues⟩ := (Text.of_number_eq_some_iff _ _ _).1 marked
          have whole : text = lead ++ (dual.number ++ behind) := by
            rw [number, List.append_assoc, List.singleton_append, parted]
          exact ⟨lead, behind, whole, leadBlank, ⟨digits, [letter], number, given, numeric, le_rfl,
            List.forall_mem_singleton.2 lettered⟩, continues⟩
        · obtain ⟨number, continues⟩ := (Text.of_number_eq_some_iff _ _ _).1 plain
          have lettered : dual.number.IsLetteredNumber :=
            ⟨digits, [], by rw [number, List.append_nil], given, numeric, Nat.zero_le 1, by simp⟩
          exact ⟨lead, letter :: behind, number ▸ parted, leadBlank, lettered, continues⟩
  · rintro ⟨lead, rest, rfl, leadBlank, ⟨digits, mark, number, given, numeric, short, letters⟩,
      continues⟩
    have continued := (Text.of_number_eq_some_iff _ rest dual).2 ⟨number, continues⟩
    cases mark with
    | cons letter none =>
        obtain rfl : none = [] := by simpa using short
        have lettered := letters letter (.head _)
        have noDigit := letter_no_digit letter lettered
        rw [number, List.append_assoc, List.singleton_append,
          of_text_digits lead digits letter rest leadBlank given numeric noDigit, marked_or_plain]
        exact .inl ⟨lettered, continued⟩
    | nil =>
        obtain ⟨letter, behind, rfl, noDigit⟩ := Text.continues_begins continues
        rw [List.append_nil] at number continued
        rw [number, of_text_digits lead digits letter behind leadBlank given numeric noDigit,
          marked_or_plain]
        exact .inr continued

instance (dual : DualNumber) (text : Text) : Decidable (dual.WrittenAs text) :=
  decidable_of_iff _ (DualNumber.of_text_eq_some_iff text dual)

namespace Bag

/-- A house number and a separator in front of another house number make it a range, and nothing
else in the bag is changed. -/
theorem of_tokens_ranged (first second connector : Text) (behind : List Token)
    (firstGiven : first ≠ []) (firstTrimmed : first.trim = first) (secondGiven : second ≠ [])
    (secondTrimmed : second.trim = second)
    (absent : ∀ token ∈ behind, token.component? ≠ some .number) :
    let tokens := .ofComponent .number second :: behind
    ofTokens (.ofComponent .number first :: .separator connector :: tokens) =
      (ofTokens tokens).set .number (first ++ '-' :: second) := by
  intro tokens
  have addFirst := Token.value_of_component .number first (firstTrimmed.symm ▸ firstGiven)
  have addSecond := Token.value_of_component .number second (secondTrimmed.symm ▸ secondGiven)
  rw [firstTrimmed] at addFirst
  rw [secondTrimmed] at addSecond
  let opened : Joining := ⟨empty.set .number first, .afterNumberAndSeparator⟩
  have front : ofTokens (.ofComponent .number first :: .separator connector :: tokens) =
      (tokens.foldl Joining.step opened).bag := by
    have stepped := Joining.start.step_with_value _ .number first addFirst
    change (tokens.foldl Joining.step
      ((Joining.start.step (.ofComponent .number first)).step (.separator connector))).bag = _
    rw [stepped]
    rfl
  have range : (opened.append .number second).bag.get .number = some (first ++ '-' :: second) := by
    have has : opened.bag.has .number = true := by simpa [opened, has, value] using firstGiven
    simp [Joining.append, has, opened, value, Joining.joiner]
  apply Bag.ext
  funext component
  rw [front]
  by_cases number : component = .number
  · subst number
    rw [get_set_self, List.foldl_cons, opened.step_with_value _ .number second addSecond,
      Joining.run_keeps _ _ _ absent, range]
  · rw [get_set_other _ _ _ _ number]
    exact Joining.run_agrees _ _ tokens component number (get_set_other _ _ _ _ number)

end Bag

namespace Location

def behindNumber (boxed : Bool) : FieldLabels := (FieldLabels.oneStreet boxed).tail

theorem address_tokens_numbered (location : Location)
    (given : (location.value .number).trim ≠ []) :
    location.addressTokens =
      .ofComponent .number (location.value .number).trim ::
        location.tokens (behindNumber location.isBox) := by
  have listed : FieldLabels.oneStreet location.isBox =
      (.number, Component.number.label) :: behindNumber location.isBox := by
    cases location.isBox <;> rfl
  rw [address_tokens_listed, listed, tokens, List.filterMap_cons]
  simp only [Text.present_given _ given]
  rfl

theorem behind_number_unnumbered (location : Location) (boxed : Bool) :
    ∀ token ∈ location.tokens (behindNumber boxed), token.component? ≠ some .number := by
  intro token listed number
  have label := (Label.component_eq_some_iff token.label .number).1 number
  have unlisted : Component.number.label ∉ (behindNumber boxed).map Prod.snd := by
    cases boxed <;> decide
  exact unlisted (label ▸ location.tokens_labelled _ token listed)

end Location

theorem DualNumber.WrittenAs.given {dual : DualNumber} {text : Text}
    (written : dual.WrittenAs text) : text ≠ [] := by
  obtain ⟨lead, behind, rfl, _, lettered, _⟩ := written
  simp [lettered.solid.1]

theorem DualNumber.WrittenAs.remainder {dual : DualNumber} {text : Text}
    (written : dual.WrittenAs text) : dual.remainder.isAllBlank = false := by
  obtain ⟨_, _, _, _, _, _, _, _, _, _, _, numbered⟩ := written
  obtain ⟨digit, rest, begins, solid⟩ := numbered.begins
  simp [Text.isAllBlank, begins, solid]

/-- Whatever the locator answers, it is asked about the second number alone, and the number in front
repeats a label. -/
theorem parse_dual_number (locate : Locator) (text : Text) (dual : DualNumber)
    (written : dual.WrittenAs (cleanText text)) :
    let tokens := .ofComponent .number dual.number :: .separator dual.connector ::
      (Tagger.tagWhole locate dual.remainder).value.2
    parse (.locating locate) text =
      ⟨⟨text, .ambiguous (.repeatedLabel Component.number.label)
        (.ofTokens (tokens.filter fun token => !token.isSecondStreet))⟩, [dual.remainder]⟩ := by
  intro tokens
  have read : Tagger.locating locate (cleanText text) = Tagger.tagDual locate dual := by
    rw [Tagger.locating, (DualNumber.of_text_eq_some_iff _ dual).2 written]
  have notEmpty : (cleanText text).isEmpty = false := by simpa using written.given
  have asked : (Tagger.tagWhole locate dual.remainder).asked = [dual.remainder] := by
    rw [Tagger.tagWhole, written.remainder]
    cases locate dual.remainder <;> rfl
  rw [parse, interpret, notEmpty, read]
  change Consulted.mk _ (Tagger.tagWhole locate dual.remainder).asked = _
  rw [asked]
  rfl

/-- The first of two numbers goes in front of an address that is read with the second one. -/
theorem Location.of_dual_tokens (location : Location) (dual : DualNumber)
    (lettered : dual.number.IsLetteredNumber) (given : (location.value .number).trim ≠ []) :
    let tokens :=
      .ofComponent .number dual.number :: .separator dual.connector :: location.addressTokens
    Bag.ofTokens (tokens.filter fun token => !token.isSecondStreet) =
      location.renamed.set .number (dual.number ++ '-' :: (location.value .number).trim) := by
  intro tokens
  have first : tokens.filter (fun token => !token.isSecondStreet) = tokens := by
    rw [List.filter_eq_self]
    intro token listed
    rcases List.mem_cons.1 listed with rfl | listed
    · rfl
    rcases List.mem_cons.1 listed with rfl | listed
    · rfl
    · simp [location.address_tokens_first token listed]
  rw [first, ← location.of_address_tokens]
  simp only [tokens, location.address_tokens_numbered given]
  exact Bag.of_tokens_ranged dual.number _ dual.connector _ lettered.solid.1
    (Text.trim_of_solid _ lettered.solid.2) given (Text.trim_trim _)
    (location.behind_number_unnumbered _)

/-- Two house numbers on one street become a range, and the rest is the address that the locator
reads with the second one. The answer is ambiguous for the repeated number. -/
theorem dual_numbers_become_range (locate : Locator) (text : Text) (dual : DualNumber)
    (written : dual.WrittenAs (cleanText text)) :
    let parsed := parse (.locating locate) text
    parsed.asked = [dual.remainder] ∧
      parsed.value.classification = .ambiguous (.repeatedLabel Component.number.label) ∧
      ∀ location, locate dual.remainder = some location →
        (∀ side, side ≠ .only → location.value (.street side .name) = []) →
        (location.value .number).trim ≠ [] →
          parsed.value.components = .single
            (location.renamed.set .number
              (dual.number ++ '-' :: (location.value .number).trim)) := by
  intro parsed
  have read : parsed = _ := parse_dual_number locate text dual written
  rw [read]
  refine ⟨rfl, rfl, ?_⟩
  intro location found oneStreet given
  have tokens : (Tagger.tagWhole locate dual.remainder).value.2 = location.addressTokens := by
    simp [Tagger.tagWhole, written.remainder, found, Tagger.tagLocation,
      location.no_intersection oneStreet]
  obtain ⟨_, _, _, _, lettered, _⟩ := written
  rw [tokens]
  exact congrArg Components.single (location.of_dual_tokens dual lettered given)

/-- The letter behind the first number begins the connector. -/
theorem five_and_six_ranged :
    let dual : DualNumber := ⟨"5".toList, "and".toList, "6 Main St".toList⟩
    let location : Location := .ofFields [("number".toList, .string " 6".toList),
      ("street".toList, .string "Main".toList), ("type".toList, .string "St".toList)]
    let bag := ((Bag.empty.set .number "5-6".toList).set .streetName "Main".toList).set .posttype
      "St".toList
    dual.WrittenAs (cleanText "5and6 Main St".toList) ∧
      (∀ side, side ≠ .only → location.value (.street side .name) = []) ∧
      (location.value .number).trim ≠ [] ∧
      (parse (.locating fun _ => some location) "5and6 Main St".toList).value.components =
        .single bag := by
  intro dual location bag
  have written : dual.WrittenAs (cleanText "5and6 Main St".toList) := by decide +kernel
  have oneStreet : ∀ side, side ≠ .only → location.value (.street side .name) = [] := by
    intro side different
    cases side with
    | only => exact absurd rfl different
    | first => decide +kernel
    | second => decide +kernel
  have given : (location.value .number).trim ≠ [] := by decide +kernel
  have range : location.renamed.set .number
      (dual.number ++ '-' :: (location.value .number).trim) = bag := by decide +kernel
  obtain ⟨_, _, read⟩ := dual_numbers_become_range (fun _ => some location) _ dual written
  exact ⟨written, oneStreet, given, range ▸ read location rfl oneStreet given⟩

end PostalAddress
