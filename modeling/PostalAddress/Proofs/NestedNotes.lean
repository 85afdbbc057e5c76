import PostalAddress.Note
import PostalAddress.Proofs.Squeezed

/-!
Notes in notes. Where the parentheses of a text are balanced, a note ends at the parenthesis that
closes it, but it is taken off only to the first closing one behind its start. So of a note with
others in it the text behind an inner one is left over, and cleaning takes off whole notes exactly
where nothing but blanks and parentheses stands there.
-/

namespace PostalAddress

def isParenthesis (letter : Char) : Bool := letter = '(' || letter = ')'

/-- A text with balanced parentheses, and what stands outside of its notes, with a space for each
outermost one. -/
inductive WithoutNotes : Text → Text → Prop where
  | nil : WithoutNotes [] []
  | letter (letter : Char) (rest outside : Text) (plain : isParenthesis letter = false)
      (without : WithoutNotes rest outside) : WithoutNotes (letter :: rest) (letter :: outside)
  | note (inside inner rest outside : Text) (balanced : WithoutNotes inside inner)
      (without : WithoutNotes rest outside) :
      WithoutNotes ('(' :: (inside ++ ')' :: rest)) (' ' :: outside)

/-- A text that closes so many notes, and each one that it opens. -/
inductive ClosesNotes : Nat → Text → Prop where
  | nil : ClosesNotes 0 []
  | opening {depth : Nat} {rest : Text} (closes : ClosesNotes (depth + 1) rest) :
      ClosesNotes depth ('(' :: rest)
  | closing {depth : Nat} {rest : Text} (closes : ClosesNotes depth rest) :
      ClosesNotes (depth + 1) (')' :: rest)
  | letter {depth : Nat} {rest : Text} (letter : Char) (plain : isParenthesis letter = false)
      (closes : ClosesNotes depth rest) : ClosesNotes depth (letter :: rest)

def closesNotes : Nat → Text → Bool
  | depth, [] => depth = 0
  | depth, letter :: rest =>
      if letter = '(' then closesNotes (depth + 1) rest
      else if letter = ')' then 0 < depth && closesNotes (depth - 1) rest
      else closesNotes depth rest

theorem plain_iff (letter : Char) :
    isParenthesis letter = false ↔ letter ≠ '(' ∧ letter ≠ ')' := by
  simp [isParenthesis]

theorem closes_notes_iff (depth : Nat) (text : Text) :
    ClosesNotes depth text ↔ closesNotes depth text = true := by
  constructor
  · intro closes
    induction closes with
    | nil => rfl
    | opening _ induction => exact induction
    | closing _ induction => simp [closesNotes, induction]
    | letter letter plain _ induction =>
        obtain ⟨noOpening, noClosing⟩ := (plain_iff letter).1 plain
        rw [closesNotes, if_neg noOpening, if_neg noClosing, induction]
  · intro read
    induction text generalizing depth with
    | nil =>
        rw [of_decide_eq_true read]
        exact .nil
    | cons letter rest induction =>
        rw [closesNotes] at read
        split at read
        case isTrue opening =>
          subst opening
          exact .opening (induction _ read)
        case isFalse noOpening =>
          split at read
          case isTrue closing =>
            subst closing
            obtain ⟨isOpen, behind⟩ := Bool.and_eq_true_iff.1 read
            obtain ⟨outer, rfl⟩ := Nat.exists_eq_add_one.2 (of_decide_eq_true isOpen)
            exact .closing (induction _ behind)
          case isFalse noClosing =>
            exact .letter letter ((plain_iff letter).2 ⟨noOpening, noClosing⟩) (induction _ read)

theorem ClosesNotes.closed {depth : Nat} {text : Text} (closes : ClosesNotes (depth + 1) text) :
    ')' ∈ text := by
  generalize same : depth + 1 = opened at closes
  induction closes generalizing depth with
  | nil => cases same
  | opening _ induction => exact .tail _ (induction (congrArg (· + 1) same))
  | closing => exact .head _
  | letter _ _ _ induction => exact .tail _ (induction same)

theorem ClosesNotes.append {depth : Nat} {inside : Text} (closes : ClosesNotes depth inside)
    {further : Nat} {rest : Text} (others : ClosesNotes further rest) :
    ClosesNotes (depth + further) (inside ++ rest) := by
  induction closes with
  | nil => rwa [Nat.zero_add]
  | opening _ induction =>
      rw [Nat.add_right_comm] at induction
      exact .opening induction
  | closing _ induction =>
      rw [Nat.add_right_comm]
      exact .closing induction
  | letter letter plain _ induction => exact .letter letter plain induction

/-- One of the notes that are open in front ends at a first closing parenthesis. -/
theorem ClosesNotes.parted {depth : Nat} (within : Nat) {text : Text}
    (closes : ClosesNotes (depth + 1 + within) text) :
    ∃ inside rest, text = inside ++ ')' :: rest ∧ ClosesNotes within inside ∧
      ClosesNotes depth rest := by
  generalize same : depth + 1 + within = opened at closes
  induction closes generalizing within with
  | nil => omega
  | opening _ induction =>
      obtain ⟨inside, rest, rfl, closesInside, closesRest⟩ := induction (within + 1) (by omega)
      exact ⟨_, rest, rfl, .opening closesInside, closesRest⟩
  | @closing outer behind closes induction =>
      cases within with
      | zero =>
          obtain rfl : depth = outer := by omega
          exact ⟨[], behind, rfl, .nil, closes⟩
      | succ within =>
          obtain ⟨inside, rest, rfl, closesInside, closesRest⟩ := induction within (by omega)
          exact ⟨_, rest, rfl, .closing closesInside, closesRest⟩
  | letter letter plain _ induction =>
      obtain ⟨inside, rest, rfl, closesInside, closesRest⟩ := induction within same
      exact ⟨_, rest, rfl, .letter letter plain closesInside, closesRest⟩

/-- What stands outside of all notes, where so many are open in front of the text. -/
def outsideNotes : Nat → Text → Text
  | _, [] => []
  | 0, letter :: rest =>
      if letter = '(' then ' ' :: outsideNotes 1 rest else letter :: outsideNotes 0 rest
  | depth + 1, letter :: rest =>
      if letter = '(' then outsideNotes (depth + 2) rest
      else if letter = ')' then outsideNotes depth rest
      else outsideNotes (depth + 1) rest

theorem outside_notes_within {inside : Text} {depth : Nat} (closes : ClosesNotes depth inside)
    (further : Nat) (rest : Text) :
    outsideNotes (depth + (further + 1)) (inside ++ rest) = outsideNotes (further + 1) rest := by
  induction closes with
  | nil => rw [Nat.zero_add, List.nil_append]
  | opening _ induction =>
      rw [← induction, List.cons_append, Nat.add_right_comm]
      rfl
  | closing _ induction =>
      rw [← induction, List.cons_append, Nat.add_right_comm]
      rfl
  | letter letter plain _ induction =>
      obtain ⟨noOpening, noClosing⟩ := (plain_iff letter).1 plain
      rw [← induction, List.cons_append, ← Nat.add_assoc, outsideNotes, if_neg noOpening,
        if_neg noClosing]

theorem outside_notes_note (inside rest : Text) (balanced : ClosesNotes 0 inside) :
    outsideNotes 0 ('(' :: (inside ++ ')' :: rest)) = ' ' :: outsideNotes 0 rest := by
  have within := outside_notes_within balanced 0 (')' :: rest)
  rw [Nat.zero_add] at within
  rw [outsideNotes, if_pos rfl, within]
  rfl

theorem outside_notes_letter (letter : Char) (rest : Text) (plain : isParenthesis letter = false) :
    outsideNotes 0 (letter :: rest) = letter :: outsideNotes 0 rest := by
  rw [outsideNotes, if_neg ((plain_iff letter).1 plain).1]

theorem ClosesNotes.without_notes (text : Text) (closes : ClosesNotes 0 text) :
    WithoutNotes text (outsideNotes 0 text) := by
  induction size : text.length using Nat.strong_induction_on generalizing text with
  | _ length shorter =>
      cases closes with
      | nil => exact .nil
      | opening closes =>
          obtain ⟨inside, rest, rfl, closesInside, closesRest⟩ := parted 0 closes
          simp only [List.length_cons, List.length_append] at size
          rw [outside_notes_note inside rest closesInside]
          exact .note inside _ rest _ (shorter _ (by omega) inside closesInside rfl)
            (shorter _ (by omega) rest closesRest rfl)
      | @letter _ rest letter plain closes =>
          rw [List.length_cons] at size
          rw [outside_notes_letter letter rest plain]
          exact .letter letter rest _ plain (shorter _ (by omega) rest closes rfl)

theorem without_notes_iff (text outside : Text) :
    WithoutNotes text outside ↔ ClosesNotes 0 text ∧ outsideNotes 0 text = outside := by
  constructor
  · intro without
    induction without with
    | nil => exact ⟨.nil, rfl⟩
    | letter letter rest outside plain _ induction =>
        obtain ⟨closes, rfl⟩ := induction
        exact ⟨.letter letter plain closes, outside_notes_letter letter rest plain⟩
    | note inside _ rest outside _ _ insideInduction restInduction =>
        obtain ⟨closesInside, _⟩ := insideInduction
        obtain ⟨closesRest, rfl⟩ := restInduction
        have closes := closesInside.append (.closing closesRest)
        exact ⟨.opening closes, outside_notes_note inside rest closesInside⟩
  · rintro ⟨closes, rfl⟩
    exact closes.without_notes

instance (text outside : Text) : Decidable (WithoutNotes text outside) :=
  decidable_of_iff (closesNotes 0 text = true ∧ outsideNotes 0 text = outside) (by
    rw [without_notes_iff, closes_notes_iff])

section BlankNotes

variable (insideNote : Bool)

theorem blank_notes_opening (rest : Text) (closed : ')' ∈ rest) :
    blankNotes insideNote ('(' :: rest) =
      (if insideNote then [] else [' ']) ++ blankNotes true rest := by
  have found : rest.contains ')' = true := by simpa using closed
  cases insideNote with
  | true => rfl
  | false =>
      rw [blankNotes, if_neg Bool.false_ne_true, if_pos rfl, found]
      rfl

theorem blank_notes_closing (rest : Text) :
    blankNotes insideNote (')' :: rest) =
      (if insideNote then [] else [' ']) ++ blankNotes false rest := by
  cases insideNote <;> rfl

theorem blank_notes_letter (letter : Char) (rest : Text) (plain : isParenthesis letter = false) :
    blankNotes insideNote (letter :: rest) =
      (if insideNote then [] else [letter]) ++ blankNotes insideNote rest := by
  obtain ⟨noOpening, noClosing⟩ := (plain_iff letter).1 plain
  cases insideNote <;> simp [blankNotes, noOpening, noClosing]

end BlankNotes

/-- Something that is no blank stands in front of all parentheses. -/
def BeginsWithLetter (text : Text) : Prop :=
  ∃ gap letter behind, text = gap ++ letter :: behind ∧
    (∀ other ∈ gap, isParenthesis other = false) ∧ isParenthesis letter = false ∧
    isBlank letter = false

/-- Where a note ends inside of another one, a letter of the outer one follows. So many notes are
open in front of the text. -/
def StrandsLetter (depth : Nat) (text : Text) : Prop :=
  ∃ front behind, text = front ++ ')' :: behind ∧ BeginsWithLetter behind ∧
    front.count ')' + 1 < depth + front.count '('

/-- Whether a letter is left over, where the nearest parenthesis in front begins a note or does
not. -/
def strandsLetter : Nat → Bool → Text → Bool
  | _, _, [] => false
  | depth, insideNote, letter :: rest =>
      if letter = '(' then strandsLetter (depth + 1) true rest
      else if letter = ')' then strandsLetter (depth - 1) false rest
      else !insideNote && 0 < depth && !isBlank letter || strandsLetter depth insideNote rest

theorem begins_with_letter_cons (letter : Char) (rest : Text) :
    BeginsWithLetter (letter :: rest) ↔
      isParenthesis letter = false ∧ (isBlank letter = false ∨ BeginsWithLetter rest) := by
  constructor
  · rintro ⟨gap, other, behind, parted, plainGap, plain, solid⟩
    cases gap with
    | nil =>
        cases parted
        exact ⟨plain, .inl solid⟩
    | cons head others =>
        cases parted
        exact ⟨plainGap letter (.head _), .inr ⟨others, other, behind, rfl,
          fun inGap member => plainGap inGap (.tail _ member), plain, solid⟩⟩
  · rintro ⟨plain, solid | ⟨gap, other, behind, rfl, plainGap, otherPlain, otherSolid⟩⟩
    · exact ⟨[], letter, rest, rfl, by simp, plain, solid⟩
    · exact ⟨letter :: gap, other, behind, rfl, by simpa [plain] using plainGap, otherPlain,
        otherSolid⟩

theorem strands_letter_cons (depth : Nat) (letter : Char) (rest : Text) :
    StrandsLetter depth (letter :: rest) ↔
      letter = ')' ∧ 1 < depth ∧ BeginsWithLetter rest ∨
        ∃ front behind, rest = front ++ ')' :: behind ∧ BeginsWithLetter behind ∧
          (letter :: front).count ')' + 1 < depth + (letter :: front).count '(' := by
  constructor
  · rintro ⟨front, behind, parted, begins, isOpen⟩
    cases front with
    | nil =>
        cases parted
        exact .inl ⟨rfl, by simpa using isOpen, begins⟩
    | cons head others =>
        cases parted
        exact .inr ⟨others, behind, rfl, begins, isOpen⟩
  · rintro (⟨rfl, isOpen, begins⟩ | ⟨front, behind, rfl, begins, isOpen⟩)
    · exact ⟨[], rest, rfl, begins, by simpa using isOpen⟩
    · exact ⟨letter :: front, behind, rfl, begins, isOpen⟩

theorem strands_letter_opening (depth : Nat) (rest : Text) :
    StrandsLetter depth ('(' :: rest) ↔ StrandsLetter (depth + 1) rest := by
  rw [strands_letter_cons]
  simp [StrandsLetter, Nat.add_assoc, Nat.add_comm 1]

theorem strands_letter_closing (depth : Nat) (rest : Text) :
    StrandsLetter (depth + 1) (')' :: rest) ↔
      0 < depth ∧ BeginsWithLetter rest ∨ StrandsLetter depth rest := by
  rw [strands_letter_cons]
  simp [StrandsLetter, Nat.add_right_comm depth 1]

theorem strands_letter_plain (depth : Nat) (letter : Char) (rest : Text)
    (plain : isParenthesis letter = false) :
    StrandsLetter depth (letter :: rest) ↔ StrandsLetter depth rest := by
  obtain ⟨noOpening, noClosing⟩ := (plain_iff letter).1 plain
  rw [strands_letter_cons]
  simp [StrandsLetter, noOpening, noClosing]

theorem strands_letter_iff {depth : Nat} {text : Text} (closes : ClosesNotes depth text)
    (insideNote : Bool) :
    strandsLetter depth insideNote text = true ↔
      StrandsLetter depth text ∨ insideNote = false ∧ 0 < depth ∧ BeginsWithLetter text := by
  induction closes generalizing insideNote with
  | nil => simp [strandsLetter, StrandsLetter, BeginsWithLetter]
  | @opening depth rest _ induction =>
      change strandsLetter (depth + 1) true rest = true ↔ _
      rw [induction, strands_letter_opening, begins_with_letter_cons]
      simp [isParenthesis]
  | @closing depth rest _ induction =>
      change strandsLetter depth false rest = true ↔ _
      rw [induction, strands_letter_closing, begins_with_letter_cons]
      simp [isParenthesis, or_comm]
  | @letter depth rest letter plain _ induction =>
      obtain ⟨noOpening, noClosing⟩ := (plain_iff letter).1 plain
      rw [strandsLetter, if_neg noOpening, if_neg noClosing, Bool.or_eq_true, induction,
        strands_letter_plain depth letter rest plain, begins_with_letter_cons]
      simp [plain]
      grind

theorem drop_spaces (gap text : Text) (blank : ∀ letter ∈ gap, isBlank letter = true) :
    (Text.squeeze (gap ++ text)).dropWhile (· = ' ') = (Text.squeeze text).dropWhile (· = ' ') := by
  apply Text.drop_while_squeeze_append _ (by decide)
  intro letter member solid
  rw [blank letter member] at solid
  cases solid

theorem squeeze_space (text : Text) :
    Text.squeeze (' ' :: text) = ' ' :: (Text.squeeze text).dropWhile (· = ' ') := by
  rw [Text.squeeze, if_pos (by decide)]

/-- Without a stranded letter nothing is left over of a note but blanks behind its space. -/
theorem squeeze_without_stranded {depth : Nat} {text : Text} (closes : ClosesNotes depth text)
    (insideNote : Bool) (within : insideNote = true → 0 < depth)
    (none : strandsLetter depth insideNote text = false) :
    (depth = 0 →
        Text.squeeze (blankNotes insideNote text) = Text.squeeze (outsideNotes depth text)) ∧
      (Text.squeeze (blankNotes insideNote text)).dropWhile (· = ' ') =
        (Text.squeeze (outsideNotes depth text)).dropWhile (· = ' ') := by
  have space (inside : Bool) :
      ∀ letter ∈ (if inside then [] else [' ']), isBlank letter = true := by
    have blank : isBlank ' ' = true := by decide
    cases inside <;> simp [blank]
  induction closes generalizing insideNote with
  | nil => simp [blankNotes, outsideNotes]
  | @opening depth rest closes induction =>
      obtain ⟨_, same⟩ := induction true (fun _ => Nat.succ_pos _) none
      rw [blank_notes_opening insideNote rest closes.closed]
      cases depth with
      | zero =>
          obtain rfl : insideNote = false := by simpa using within
          have equal : Text.squeeze (' ' :: blankNotes true rest) =
              Text.squeeze (' ' :: outsideNotes 1 rest) := by
            rw [squeeze_space, squeeze_space, same]
          exact ⟨fun _ => equal, congrArg _ equal⟩
      | succ depth =>
          rw [drop_spaces _ _ (space insideNote), same]
          exact ⟨nofun, rfl⟩
  | @closing depth rest closes induction =>
      obtain ⟨_, same⟩ := induction false nofun none
      rw [blank_notes_closing, drop_spaces _ _ (space insideNote), same]
      exact ⟨nofun, rfl⟩
  | @letter depth rest letter plain _ induction =>
      obtain ⟨noOpening, noClosing⟩ := (plain_iff letter).1 plain
      rw [strandsLetter, if_neg noOpening, if_neg noClosing, Bool.or_eq_false_iff] at none
      obtain ⟨blank, none⟩ := none
      obtain ⟨equal, same⟩ := induction insideNote within none
      rw [blank_notes_letter insideNote letter rest plain]
      cases depth with
      | zero =>
          obtain rfl : insideNote = false := by simpa using within
          have equal : Text.squeeze (letter :: blankNotes false rest) =
              Text.squeeze (letter :: outsideNotes 0 rest) := by
            rw [Text.squeeze, Text.squeeze, equal rfl]
          rw [outside_notes_letter letter rest plain]
          exact ⟨fun _ => equal, congrArg _ equal⟩
      | succ depth =>
          have left : ∀ other ∈ (if insideNote then [] else [letter]), isBlank other = true := by
            cases insideNote with
            | true => simp
            | false => simpa using blank
          rw [drop_spaces _ _ left, same, outsideNotes, if_neg noOpening, if_neg noClosing]
          exact ⟨nofun, rfl⟩

def isSolid (letter : Char) : Bool := !isBlank letter

/-- Each letter outside of all notes is left, and a stranded one comes on top. -/
theorem count_solid_left {depth : Nat} {text : Text} (closes : ClosesNotes depth text)
    (insideNote : Bool) (within : insideNote = true → 0 < depth) :
    (outsideNotes depth text).countP isSolid + (strandsLetter depth insideNote text).toNat ≤
      (blankNotes insideNote text).countP isSolid := by
  have space (inside : Bool) : (if inside then [] else [' ']).countP isSolid = 0 := by
    cases inside <;> decide
  induction closes generalizing insideNote with
  | nil => simp [blankNotes, outsideNotes, strandsLetter]
  | @opening depth rest closes induction =>
      have left := induction true (fun _ => Nat.succ_pos _)
      rw [blank_notes_opening insideNote rest closes.closed, List.countP_append, space,
        Nat.zero_add]
      cases depth with
      | zero =>
          have outside : (outsideNotes 0 ('(' :: rest)).countP isSolid =
              (outsideNotes 1 rest).countP isSolid := by
            rw [outsideNotes, if_pos rfl, List.countP_cons_of_neg (by decide)]
          rw [outside]
          exact left
      | succ depth => exact left
  | @closing depth rest closes induction =>
      rw [blank_notes_closing, List.countP_append, space, Nat.zero_add]
      exact induction false nofun
  | @letter depth rest letter plain _ induction =>
      have left := induction insideNote within
      obtain ⟨noOpening, noClosing⟩ := (plain_iff letter).1 plain
      rw [blank_notes_letter insideNote letter rest plain, List.countP_append, strandsLetter,
        if_neg noOpening, if_neg noClosing]
      cases depth with
      | zero =>
          obtain rfl : insideNote = false := by simpa using within
          rw [outside_notes_letter letter rest plain, ← List.singleton_append, List.countP_append]
          simp only [Bool.not_false, Nat.lt_irrefl, decide_false, Bool.and_false, Bool.false_and,
            Bool.false_or, Bool.false_eq_true, if_false]
          omega
      | succ depth =>
          rw [outsideNotes, if_neg noOpening, if_neg noClosing]
          cases insideNote with
          | true => simpa using left
          | false =>
              cases solid : isBlank letter with
              | true => simpa [solid] using Nat.le_trans left (Nat.le_add_left _ _)
              | false =>
                  have fewer : (outsideNotes (depth + 1) rest).countP isSolid ≤
                      (blankNotes false rest).countP isSolid :=
                    Nat.le_trans (Nat.le_add_right _ _) left
                  simp [isSolid, solid, Nat.add_comm 1]
                  simpa [isSolid] using fewer

theorem count_solid_clean (text : Text) :
    (Text.squeeze text).trim.countP isSolid = text.countP isSolid := by
  have apart : ∀ letter, isBlank letter = true → isSolid letter = false := by
    intro letter blank
    rw [isSolid, blank, Bool.not_true]
  rw [List.countP_eq_length_filter, List.countP_eq_length_filter, Text.trim,
    Text.filter_trim_where isSolid isBlank apart, Text.filter_squeeze isSolid apart]

theorem strands_letter_top_iff {text : Text} (closes : ClosesNotes 0 text) :
    strandsLetter 0 false text = true ↔ StrandsLetter 0 text := by
  simp [strands_letter_iff closes false]

/-- Whole notes are taken off exactly where none of them leaves a letter behind an inner note. -/
theorem notes_removed_iff (text outside : Text) (without : WithoutNotes text outside) :
    cleanText text = (Text.squeeze outside).trim ↔ ¬StrandsLetter 0 text := by
  obtain ⟨closes, rfl⟩ := (without_notes_iff text outside).1 without
  rw [← strands_letter_top_iff closes, Bool.not_eq_true]
  constructor
  · intro removed
    have left := count_solid_left closes false nofun
    have counted := congrArg (List.countP isSolid) removed
    rw [cleanText, count_solid_clean, count_solid_clean] at counted
    cases stranded : strandsLetter 0 false text with
    | false => rfl
    | true =>
        rw [stranded, Bool.toNat_true] at left
        omega
  · intro none
    rw [cleanText, (squeeze_without_stranded closes false nofun none).1 rfl]

theorem inner_note_removed :
    let text := "1 Main St (rear (blue) ), Austin (TX)".toList
    let outside := "1 Main St  , Austin  ".toList
    WithoutNotes text outside ∧ ¬StrandsLetter 0 text ∧
      cleanText text = "1 Main St , Austin".toList := by
  intro text outside
  have closes : ClosesNotes 0 text := (closes_notes_iff 0 text).2 (by decide +kernel)
  have without : WithoutNotes text outside := by decide +kernel
  have none : ¬StrandsLetter 0 text := by
    rw [← strands_letter_top_iff closes]
    decide +kernel
  refine ⟨without, none, ?_⟩
  rw [(notes_removed_iff text outside without).2 none]
  decide +kernel

/-- The outer note ends with the inner one, and its last word is read as a part of the address. -/
theorem outer_note_left_over :
    let text := "1 Main St (rear (blue) door), Austin".toList
    let outside := "1 Main St  , Austin".toList
    WithoutNotes text outside ∧ (Text.squeeze outside).trim = "1 Main St , Austin".toList ∧
      cleanText text = "1 Main St door , Austin".toList ∧
      cleanText text ≠ (Text.squeeze outside).trim := by
  decide +kernel

end PostalAddress
