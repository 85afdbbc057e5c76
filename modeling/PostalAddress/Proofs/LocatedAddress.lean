import PostalAddress.Proofs.FirstConnector
import PostalAddress.Proofs.IntersectionValues
import PostalAddress.Proofs.SecondStreet

/-!
A location with one street is renamed and nothing else. Each of its fields has a component of its
own, and the unit has two, since a post office box comes as one. The fields that are not blank are
the values of the bag, trimmed, whatever else the location holds.
-/

namespace PostalAddress

namespace Text

/-- P, O and BOX in any case, the letters with or without a period, with any blanks in between. -/
structure IsBoxSpelling (p firstMark firstGap o secondMark secondGap box : Text) : Prop where
  letters : lower p = ['p'] ∧ lower o = ['o'] ∧ lower box = "box".toList
  marks : ∀ mark ∈ [firstMark, secondMark], mark = [] ∨ mark = ['.']
  gaps : ∀ gap ∈ [firstGap, secondGap], ∀ letter ∈ gap, isBlank letter = true

def SpellsBox (text : Text) : Prop :=
  ∃ p firstMark firstGap o secondMark secondGap box,
    text = p ++ (firstMark ++ (firstGap ++ (o ++ (secondMark ++ (secondGap ++ box))))) ∧
      IsBoxSpelling p firstMark firstGap o secondMark secondGap box

def skipPeriod (text : Text) : Text := if text.head? = some '.' then text.drop 1 else text

theorem skip_period_parts (text : Text) :
    ∃ mark, (mark = [] ∨ mark = ['.']) ∧ text = mark ++ skipPeriod text := by
  rw [skipPeriod]
  split
  case isTrue begins =>
    obtain ⟨rest, same⟩ := List.head?_eq_some_iff.1 begins
    exact ⟨['.'], .inr rfl, by rw [same]; rfl⟩
  case isFalse => exact ⟨[], .inl rfl, rfl⟩

theorem skip_mark (mark gap rest : Text) (isMark : mark = [] ∨ mark = ['.'])
    (blank : ∀ letter ∈ gap, isBlank letter = true)
    (solid : ∀ letter ∈ rest.head?, isBlank letter = false ∧ letter ≠ '.') :
    skipBlanks (skipPeriod (mark ++ (gap ++ rest))) = rest := by
  have skipped : skipPeriod (mark ++ (gap ++ rest)) = gap ++ rest := by
    rcases isMark with same | same
    · subst same
      apply if_neg
      intro begins
      cases gap with
      | nil => exact (solid '.' begins).2 rfl
      | cons letter others =>
          cases begins
          exact absurd (blank '.' (.head _)) (by decide)
    · subst same
      rfl
  rw [skipped]
  exact skip_blanks_append gap rest blank fun letter member => (solid letter member).1

/-- A letter in any case is no blank and no period. -/
theorem lower_letter (written lowered : Char) (same : asciiLower written = lowered)
    (solid : isBlank lowered = false) (noPeriod : lowered ≠ '.') :
    isBlank written = false ∧ written ≠ '.' := by
  constructor
  · cases blank : isBlank written with
    | false => rfl
    | true =>
        have noWord := blank_no_word written blank
        simp only [isWordCharacter, isLetter, Bool.or_eq_false_iff] at noWord
        obtain ⟨⟨⟨_, notUpper⟩, _⟩, _⟩ := noWord
        rw [asciiLower, notUpper] at same
        rw [← same] at solid
        exact blank.symm.trans solid
  · rintro rfl
    exact noPeriod same.symm

theorem lower_begins (written : Text) (first : Char) (rest : Text)
    (same : lower written = first :: rest) (solid : isBlank first = false)
    (noPeriod : first ≠ '.') (behind : Text) :
    ∀ letter ∈ (written ++ behind).head?, isBlank letter = false ∧ letter ≠ '.' := by
  cases written with
  | nil => cases same
  | cons letter others =>
      rintro _ ⟨⟩
      exact lower_letter letter first (List.cons.inj same).1 solid noPeriod

end Text

theorem is_box_designator_any (text : Text) :
    isBoxDesignator text =
      (Text.readWord? ['p'] text).any fun readP =>
        (Text.readWord? ['o'] (Text.skipBlanks (Text.skipPeriod readP.2))).any fun readO =>
          Text.lower (Text.skipBlanks (Text.skipPeriod readO.2)) = "box".toList := by
  rw [isBoxDesignator]
  split
  case h_1 unread =>
    rw [unread]
    rfl
  case h_2 readP =>
    rw [readP, Option.any_some]
    split
    case h_1 unread =>
      change Text.readWord? ['o'] (Text.skipBlanks (Text.skipPeriod _)) = none at unread
      rw [unread]
      rfl
    case h_2 readO =>
      change Text.readWord? ['o'] (Text.skipBlanks (Text.skipPeriod _)) = some _ at readO
      rw [readO]
      rfl

theorem is_box_designator_iff (text : Text) :
    isBoxDesignator text = true ↔ text.SpellsBox := by
  simp only [is_box_designator_any, Option.any_eq_true, decide_eq_true_eq, Prod.exists]
  constructor
  · rintro ⟨p, afterP, readP, o, afterO, readO, lowerBox⟩
    obtain ⟨parted, lowerP⟩ := (Text.read_word_eq_some_iff _ _ _ _).1 readP
    obtain ⟨partedO, lowerO⟩ := (Text.read_word_eq_some_iff _ _ _ _).1 readO
    obtain ⟨firstMark, isFirstMark, markedP⟩ := Text.skip_period_parts afterP
    obtain ⟨secondMark, isSecondMark, markedO⟩ := Text.skip_period_parts afterO
    obtain ⟨firstGap, gapP, firstBlank, _⟩ := Text.skip_blanks_parts (Text.skipPeriod afterP)
    obtain ⟨secondGap, gapO, secondBlank, _⟩ := Text.skip_blanks_parts (Text.skipPeriod afterO)
    refine ⟨p, firstMark, firstGap, o, secondMark, secondGap,
      Text.skipBlanks (Text.skipPeriod afterO), ?_, ⟨lowerP, lowerO, lowerBox⟩, ?_, ?_⟩
    · rw [← gapO, ← markedO, ← partedO, ← gapP, ← markedP, parted]
    · simp [isFirstMark, isSecondMark]
    · simpa using ⟨firstBlank, secondBlank⟩
  · rintro ⟨p, firstMark, firstGap, o, secondMark, secondGap, box, rfl, spelling⟩
    obtain ⟨lowerP, lowerO, lowerBox⟩ := spelling.letters
    refine ⟨p, _, (Text.read_word_eq_some_iff _ _ _ _).2 ⟨rfl, lowerP⟩, o,
      secondMark ++ (secondGap ++ box), ?_, ?_⟩
    · rw [Text.skip_mark firstMark firstGap _ (spelling.marks _ (by simp))
        (spelling.gaps _ (by simp)) (Text.lower_begins o 'o' [] lowerO (by decide) (by decide) _)]
      exact (Text.read_word_eq_some_iff _ _ _ _).2 ⟨rfl, lowerO⟩
    · have solid := Text.lower_begins box 'b' "ox".toList lowerBox (by decide) (by decide) []
      rw [List.append_nil] at solid
      rw [Text.skip_mark secondMark secondGap box (spelling.marks _ (by simp))
        (spelling.gaps _ (by simp)) solid, lowerBox]

instance (text : Text) : Decidable text.SpellsBox :=
  decidable_of_iff _ (is_box_designator_iff text)

namespace FieldLabels

def field? (fields : FieldLabels) (component : Component) : Option LocationField :=
  (fields.find? fun entry => entry.2 = component.label).map Prod.fst

theorem field_concat (fields : FieldLabels) (field : LocationField) (label : Text)
    (component : Component) :
    field? (fields ++ [(field, label)]) component =
      (field? fields component).or (if label = component.label then some field else none) := by
  rw [field?, List.find?_append, Option.map_or, ← field?]
  by_cases same : label = component.label <;> simp [same]

theorem field_unlisted (fields : FieldLabels) (component : Component)
    (unlisted : component.label ∉ fields.map Prod.snd) : field? fields component = none := by
  rw [field?, Option.map_eq_none_iff, List.find?_eq_none]
  intro entry listed same
  exact unlisted (List.mem_map.2 ⟨entry, listed, of_decide_eq_true same⟩)

end FieldLabels

namespace Location

theorem get_with_field (location : Location) (tokens : List Token) (field : LocationField)
    (label : Text) (component : Component)
    (fresh : label = component.label → (Bag.ofTokens tokens).get component = none) :
    (Bag.ofTokens (tokens ++ location.tokens [(field, label)])).get component =
      if label = component.label then Text.present? (location.value field).trim
      else (Bag.ofTokens tokens).get component := by
  cases written : (location.value field).trim with
  | nil =>
      have noToken : location.tokens [(field, label)] = [] := by
        simp [Location.tokens, written, Text.present?]
      rw [noToken, List.append_nil]
      split
      case isTrue same => exact fresh same
      case isFalse => rfl
  | cons letter rest =>
      have oneToken : location.tokens [(field, label)] = [⟨label, letter :: rest⟩] := by
        simp [Location.tokens, written, Text.present?]
      rw [oneToken]
      split
      case isTrue same =>
        have text : (Token.mk label (letter :: rest)).textFor? component =
            some (letter :: rest) := by
          rw [Token.text_for_label, if_pos same, ← written, Text.trim_trim, written]
          rfl
        rw [Bag.of_tokens_joined _ _ component _ text, fresh same]
        rfl
      case isFalse other =>
        have silent : (Token.mk label (letter :: rest)).textFor? component = none := by
          rw [Token.text_for_label, if_neg other]
        exact Bag.of_tokens_without_text _ _ component silent

/-- Fields that have labels of their own are not joined. -/
theorem get_of_fields (location : Location) (fields : FieldLabels)
    (distinct : (fields.map Prod.snd).Nodup) (component : Component) :
    (Bag.ofTokens (location.tokens fields)).get component =
      (FieldLabels.field? fields component).bind fun field =>
        Text.present? (location.value field).trim := by
  induction fields using List.reverseRecOn with
  | nil => rfl
  | append_singleton fields entry induction =>
      obtain ⟨field, label⟩ := entry
      rw [List.map_append, List.nodup_append] at distinct
      obtain ⟨distinctBefore, _, apart⟩ := distinct
      have before := induction distinctBefore
      have unlisted (same : label = component.label) :
          FieldLabels.field? fields component = none := by
        apply FieldLabels.field_unlisted
        intro listed
        exact apart _ listed label (by simp) same.symm
      have split : location.tokens (fields ++ [(field, label)]) =
          location.tokens fields ++ location.tokens [(field, label)] := List.filterMap_append
      rw [split, FieldLabels.field_concat, location.get_with_field _ field label component
        (fun same => by rw [before, unlisted same]; rfl), before]
      by_cases same : label = component.label
      · simp [same, unlisted same]
      · simp [same]

end Location

/-- The field that each component of a street address is read from. A post office box is the unit
under another name. -/
def Component.locationField? (boxed : Bool) : Component → Option LocationField
  | number => some .number
  | predirectional => some (.street .only .predirectional)
  | streetName => some (.street .only .name)
  | posttype => some (.street .only .streetType)
  | postdirectional => some (.street .only .postdirectional)
  | occupancyType => if boxed then none else some .unitType
  | occupancyIdentifier => if boxed then none else some .unitNumber
  | boxType => if boxed then some .unitType else none
  | boxId => if boxed then some .unitNumber else none
  | city => some .city
  | state => some .state
  | zipCode => some .zip
  | zipPlus4 => some .plus4
  | _ => none

/-- The location as a street address. -/
def Location.renamed (location : Location) : Bag :=
  ⟨fun component =>
    (component.locationField? (location.value .unitType).trim.SpellsBox).bind fun field =>
      Text.present? (location.value field).trim⟩

namespace FieldLabels

def oneStreet (boxed : Bool) : FieldLabels :=
  (if boxed then address .boxType .boxId else address .occupancyType .occupancyIdentifier) ++ place

theorem one_street_distinct (boxed : Bool) : ((oneStreet boxed).map Prod.snd).Nodup := by
  cases boxed <;> decide

theorem one_street_first (boxed : Bool) :
    ∀ label ∈ (oneStreet boxed).map Prod.snd, Label.isSecondStreet label = false := by
  cases boxed <;> decide

theorem field_of_one_street (boxed : Bool) (component : Component) :
    (oneStreet boxed).field? component = component.locationField? boxed := by
  cases boxed <;> cases component <;> decide

end FieldLabels

namespace Location

theorem address_tokens_listed (location : Location) :
    location.addressTokens = location.tokens (.oneStreet location.isBox) :=
  List.filterMap_append.symm

theorem of_address_tokens (location : Location) :
    Bag.ofTokens location.addressTokens = location.renamed := by
  have box : location.isBox = decide (location.value .unitType).trim.SpellsBox := by
    rw [isBox, Bool.eq_iff_iff, is_box_designator_iff, decide_eq_true_iff]
  apply Bag.ext
  funext component
  rw [address_tokens_listed, location.get_of_fields _ (FieldLabels.one_street_distinct _),
    FieldLabels.field_of_one_street, box]
  rfl

theorem address_tokens_first (location : Location) :
    ∀ token ∈ location.addressTokens, token.isSecondStreet = false := by
  intro token listed
  rw [address_tokens_listed] at listed
  exact FieldLabels.one_street_first _ _ (location.tokens_labelled _ token listed)

theorem address_tokens_classified (location : Location) :
    classify (.parsed .streetAddress location.addressTokens) = .streetAddress := by
  rw [classify_eq_street_address_iff, street_doubtful_iff]
  rintro ⟨token, listed, second⟩
  rw [location.address_tokens_first token listed] at second
  cases second

theorem no_intersection (location : Location)
    (oneStreet : ∀ side, side ≠ .only → location.value (.street side .name) = []) :
    location.isIntersection = false := by
  rw [isIntersection, oneStreet .first (by decide), oneStreet .second (by decide)]
  rfl

end Location

theorem Tagger.locating_address (locate : Locator) (text : Text) (location : Location)
    (written : text.isAllBlank = false) (notDual : DualNumber.ofText? text = none)
    (found : locate text = some location)
    (oneStreet : ∀ side, side ≠ .only → location.value (.street side .name) = []) :
    (locating locate text).value = .parsed .streetAddress location.addressTokens := by
  simp [locating, notDual, tagWhole, written, found, tagLocation,
    location.no_intersection oneStreet]

/-- What the locator reads with one street is a street address. Its fields are renamed, and after
that nothing but unit recovery changes the bag. -/
theorem located_address_renamed (locate : Locator) (text : Text) (location : Location)
    (written : (cleanText text).isAllBlank = false)
    (notDual : DualNumber.ofText? (cleanText text) = none)
    (found : locate (cleanText text) = some location)
    (oneStreet : ∀ side, side ≠ .only → location.value (.street side .name) = []) :
    let tagging := (Tagger.locating locate (cleanText text)).value
    classify tagging = .streetAddress ∧ Bag.ofTokens tagging.tokens = location.renamed ∧
      (parse (.locating locate) text).value =
        ⟨text, .streetAddress (recoverUnits location.renamed)⟩ := by
  have tagged := Tagger.locating_address locate _ location written notDual found oneStreet
  have classified := location.address_tokens_classified
  have given : cleanText text ≠ [] := by
    intro empty
    rw [empty] at written
    cases written
  have renamed : Bag.ofTokens (Tagging.parsed .streetAddress location.addressTokens).tokens =
      location.renamed := location.of_address_tokens
  refine ⟨tagged ▸ classified, tagged ▸ renamed, ?_⟩
  rw [parse_of_text _ text given, tagged, Interpretation.ofTagging, classified, ← renamed]

/-- A box with a direction that belongs to no street, and with a state that is blank. -/
def springfieldBox : Location :=
  .ofFields [("prefix1".toList, .string "N".toList),
    ("sec_unit_type".toList, .string " p.o. Box".toList),
    ("sec_unit_num".toList, .string "12".toList), ("city".toList, .string "Springfield ".toList),
    ("state".toList, .string " ".toList)]

theorem springfield_box_renamed :
    let text := "P.O. Box 12, Springfield".toList
    let bag := ((Bag.empty.set .boxType "p.o. Box".toList).set .boxId "12".toList).set .city
      "Springfield".toList
    (cleanText text).isAllBlank = false ∧ DualNumber.ofText? (cleanText text) = none ∧
      (∀ side, side ≠ .only → springfieldBox.value (.street side .name) = []) ∧
      springfieldBox.renamed = bag ∧
      (parse (.locating fun _ => some springfieldBox) text).value =
        ⟨text, .streetAddress (recoverUnits bag)⟩ := by
  intro text bag
  have written : (cleanText text).isAllBlank = false := by decide +kernel
  have notDual : DualNumber.ofText? (cleanText text) = none := by decide +kernel
  have oneStreet : ∀ side, side ≠ .only → springfieldBox.value (.street side .name) = [] := by
    intro side different
    cases side with
    | only => exact absurd rfl different
    | first => decide +kernel
    | second => decide +kernel
  have renamed : springfieldBox.renamed = bag := by decide +kernel
  have read := located_address_renamed (fun _ => some springfieldBox) text springfieldBox written
    notDual rfl oneStreet
  rw [renamed] at read
  exact ⟨written, notDual, oneStreet, renamed, read.2.2⟩

end PostalAddress
