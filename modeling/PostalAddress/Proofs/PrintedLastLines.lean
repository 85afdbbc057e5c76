import PostalAddress.Proofs.FiledUnits
import PostalAddress.Proofs.LastLines

/-!
Whether a last line that was printed is read back. A line is printed as the city, a comma, the state
and the ZIP code, and is read without its comma, by words from its end. So a city is read back
unless its last word and the code of the state together name a state, which only WASHINGTON and DC
do: then the word is taken from the city.
-/

namespace PostalAddress

namespace AbbreviationTable

theorem contains_iff (table : AbbreviationTable) (term : Text) :
    table.contains term = true ↔ term ∈ table.terms := by
  rw [contains, short?, Option.isSome_map, List.find?_isSome, terms, List.mem_flatMap]
  simp

end AbbreviationTable

def stateCodes : List Text := states.map Abbreviation.short

/-- A word that is written as it is in any normal form, such as a code. -/
structure IsPlainWord (word : Text) : Prop where
  given : word ≠ []
  plain : ∀ letter ∈ word, isPlain letter = true

namespace IsPlainWord

variable {word : Text} (plainWord : IsPlainWord word)

include plainWord

theorem normal : IsNormal word := plain_normal word plainWord.plain

theorem upper : Text.IsUpper word := plain_upper word plainWord.plain

theorem fixed : normalize word = word := normalize_plain word plainWord.plain

theorem is_word : word.IsWord where
  given := plainWord.given
  solid letter member := by
    exact not_blank_of_not_edge letter (plain_not_edge letter (plainWord.plain letter member))

theorem uncut : ',' ∉ word := fun member => absurd (plainWord.plain ',' member) (by decide)

end IsPlainWord

theorem state_code_plain (code : Text) (listed : code ∈ stateCodes) : IsPlainWord code := by
  have plain : ∀ code ∈ stateCodes, code ≠ [] ∧ code.all isPlain = true := by
    decide +kernel
  exact ⟨(plain code listed).1, List.all_eq_true.1 (plain code listed).2⟩

theorem state_code_known (code : Text) (listed : code ∈ stateCodes) :
    states.lookup code = code ∧ states.recognizes code = true := by
  obtain ⟨entry, member, same⟩ := List.mem_map.1 listed
  subst same
  have plain := AbbreviationTable.states_closed.plain entry member
  have found := AbbreviationTable.states_closed.found entry member
  constructor
  · exact AbbreviationTable.states_closed.lookup_short _ _ found
  · rw [AbbreviationTable.recognizes, AbbreviationTable.contains, normalize_plain _ plain, found]
    rfl

theorem state_code_behind_word (term : Text) (member : term ∈ states.terms) (code : Text)
    (listed : code ∈ stateCodes) (ends : ' ' :: code <:+ term) :
    code = "DC".toList ∧ term = "WASHINGTON DC".toList := by
  have sizes : ∀ code ∈ stateCodes, code.length = 2 := by decide +kernel
  have spaced : ∀ term ∈ states.terms,
      (term.drop (term.length - 3)).head? = some ' ' → term = "WASHINGTON DC".toList := by
    decide +kernel
  have last : ' ' :: code = term.drop (term.length - 3) := by
    have cut := List.suffix_iff_eq_drop.1 ends
    rwa [List.length_cons, sizes code listed] at cut
  have washington := spaced term member (last ▸ rfl)
  subst washington
  exact ⟨(List.cons.inj last).2, rfl⟩

namespace Text

/-- The last word of a city is WASHINGTON, but for semicolons in front of it. -/
def EndsInWashington (city : Text) : Prop :=
  ∃ word, city.words.getLast? = some word ∧
    word.dropWhile (· = ';') = "WASHINGTON".toList

theorem drop_while_congr {left right : Char → Bool} (text : Text)
    (same : ∀ letter ∈ text, left letter = right letter) :
    text.dropWhile left = text.dropWhile right := by
  induction text with
  | nil => rfl
  | cons head rest induction =>
      rw [List.dropWhile_cons, List.dropWhile_cons, same head (.head _),
        induction fun letter member => same letter (.tail _ member)]

end Text

namespace IsNormal

variable {city : Text} (normal : IsNormal city)

include normal

theorem unwords_words : Text.unwords city.words = city :=
  Text.unwords_words city normal.squeezed normal.written.first normal.written.last

theorem last_word_suffix (front : List Text) (word : Text) (parted : city.words = front ++ [word]) :
    word <:+ city ∧ ∃ letter ∈ word, isEdgeMark letter = false := by
  have joined := normal.unwords_words
  have ends : word <:+ city := by
    rw [← joined, parted]
    cases front with
    | nil => simp [Text.unwords]
    | cons first others =>
        rw [Text.unwords_concat _ word (List.cons_ne_nil _ _)]
        exact List.suffix_append _ word
  have given := (Text.mem_words_word city word (by simp [parted])).given
  refine ⟨ends, word.getLast given, List.getLast_mem given, normal.last _ ?_⟩
  obtain ⟨before, same⟩ := ends
  rw [← same, List.getLast?_append_of_ne_nil _ given, List.getLast?_eq_some_getLast given]
  rfl

/-- The last word of a city and the code of a state name a state together only if they are
WASHINGTON and DC. -/
theorem recognizes_behind_word_iff (upper : city.IsUpper) (given : city ≠ [])
    (noComma : ',' ∉ city) (code : Text) (listed : code ∈ stateCodes) (front : List Text)
    (word : Text) (parted : city.words = front ++ [word]) :
    states.recognizes (Text.unwords [word, code]) = true ↔
      code = "DC".toList ∧ word.dropWhile (· = ';') = "WASHINGTON".toList := by
  obtain ⟨ends, letter, inside, kept⟩ := normal.last_word_suffix front word parted
  have codePlain := state_code_plain code listed
  have tidy : IsTidy (word ++ ' ' :: code) := by
    have line := (normal.join codePlain.normal given codePlain.given).toIsTidy
    apply line.suffix
    obtain ⟨before, same⟩ := ends
    exact ⟨before, by rw [← same, List.append_assoc]⟩
  have lineUpper : Text.IsUpper (word ++ ' ' :: code) := by
    have joined := Text.join_nonempty_upper [' '] (by simp) (by simp) [word, code] (by
      simp [upper.part ends.isInfix, codePlain.upper])
    have wordGiven := (Text.mem_words_word city word (by simp [parted])).given
    simpa [Text.joinNonempty, wordGiven, codePlain.given] using joined
  have marks : word.dropWhile isEdgeMark = word.dropWhile (· = ';') := by
    have solid := (Text.mem_words_word city word (by simp [parted])).solid
    apply Text.drop_while_congr
    intro other member
    have noCommas : other ≠ ',' := fun comma => noComma (comma ▸ ends.subset member)
    simp [isEdgeMark, solid other member, noCommas]
  have normalized : PostalAddress.normalize (Text.unwords [word, code]) =
      word.dropWhile (· = ';') ++ ' ' :: code := by
    have keeps : word.dropWhile isEdgeMark ≠ [] := by
      intro empty
      rw [List.dropWhile_eq_nil_iff.1 empty letter inside] at kept
      cases kept
    rw [Text.unwords_cons word [code] (by simp), Text.unwords, List.intercalate_singleton,
      tidy.normalize lineUpper, List.dropWhile_append, ← marks]
    simp [keeps]
  rw [AbbreviationTable.recognizes, AbbreviationTable.contains_iff, normalized]
  constructor
  · intro member
    obtain ⟨same, term⟩ := state_code_behind_word _ member code listed (List.suffix_append _ _)
    subst same
    exact ⟨rfl, List.append_cancel_right term⟩
  · intro washington
    rw [washington.1, washington.2]
    decide +kernel

end IsNormal

/-- The ZIP code of a last line with its parts, or none. -/
inductive IsPrintedZip : Text → Text → Text → Prop where
  | none : IsPrintedZip [] [] []
  | code (whole zip plus4 : Text) (zipWord : IsZipWord whole zip plus4) :
      IsPrintedZip whole zip plus4

theorem digits_plain_word (count : Nat) (text : Text) (digits : isDigits (count + 1) text = true) :
    IsPlainWord text where
  given := by
    rintro rfl
    cases digits
  plain letter member := digit_plain letter (((is_digits_iff _ text).1 digits).2 letter member)

theorem IsZipWord.plain {word zip plus4 : Text} (zipWord : IsZipWord word zip plus4) :
    IsPlainWord word := by
  cases zipWord with
  | five _ digits => exact digits_plain_word 4 _ digits
  | nine _ _ digits addOn =>
      refine ⟨by simp, fun letter member => ?_⟩
      rcases List.mem_append.1 member with inZip | behind
      · exact (digits_plain_word 4 _ digits).plain letter inZip
      · rcases List.mem_cons.1 behind with same | inAddOn
        · subst same
          decide
        · exact (digits_plain_word 3 _ addOn).plain letter inAddOn

theorem state_code_no_zip : ∀ code ∈ stateCodes, zipWord? code = none := by
  decide +kernel

theorem IsPrintedZip.parted {whole zip plus4 : Text} (printed : IsPrintedZip whole zip plus4)
    (front : List Text) (code : Text) (listed : code ∈ stateCodes) :
    IsZipParted (front ++ [code] ++ (Text.present? whole).toList) (front ++ [code]) zip plus4 := by
  cases printed with
  | none =>
      rw [Text.present?, Option.toList_none, List.append_nil]
      refine .uncoded _ fun word zip plus4 last zipWord => ?_
      rw [List.getLast?_concat, Option.some.injEq] at last
      subst last
      have unread := state_code_no_zip code listed
      rw [(zip_word_eq_some_iff code zip plus4).2 zipWord] at unread
      cases unread
  | code _ _ _ zipWord =>
      rw [Text.present_given whole zipWord.plain.given, Option.toList_some]
      exact .coded _ whole zip plus4 zipWord

/-- A city in front of its state is all the words in front of it. -/
theorem Place.line_eq (city code whole : Text) (cityGiven : city ≠ []) (codeGiven : code ≠ []) :
    (Place.mk city code whole).line =
      city ++ ',' :: ' ' :: (code ++ if whole = [] then [] else ' ' :: whole) := by
  by_cases none : whole = []
  · simp [Place.line, Text.joinNonempty, cityGiven, codeGiven, none]
  · simp [Place.line, Text.joinNonempty, cityGiven, codeGiven, none]

namespace LastLine

theorem words_of_break (front behind : Text) (letter : Char)
    (breaks : isBlank letter = true ∨ letter = ',') :
    wordsOf (front ++ letter :: behind) = wordsOf front ++ wordsOf behind := by
  have blank : isBlank (if letter = ',' then ' ' else letter) = true := by
    split
    case isTrue => decide
    case isFalse noComma => exact breaks.resolve_right noComma
  rw [wordsOf, List.map_append, List.map_cons, Text.words_append_blank _ _ _ blank]
  rfl

theorem words_of_uncut (text : Text) (absent : ',' ∉ text) : wordsOf text = text.words := by
  have kept : ∀ letter ∈ text, (if letter = ',' then ' ' else letter) = letter := by
    intro letter member
    have noComma : letter ≠ ',' := fun comma => absent (comma ▸ member)
    exact if_neg noComma
  rw [wordsOf, List.map_congr_left kept, List.map_id']

theorem words_of_word (word : Text) (isWord : word.IsWord) (absent : ',' ∉ word) :
    wordsOf word = [word] := by
  rw [words_of_uncut word absent, isWord.words]

end LastLine

/-- A city, the code of a state and a ZIP code or none, as they stand on a printed last line. -/
structure IsPrintedPlace (city code whole zip plus4 : Text) : Prop where
  normal : normalize city = city
  given : city ≠ []
  noComma : ',' ∉ city
  listed : code ∈ stateCodes
  printed : IsPrintedZip whole zip plus4

namespace IsPrintedPlace

variable {city code whole zip plus4 : Text} (place : IsPrintedPlace city code whole zip plus4)

include place

theorem city_normal : IsNormal city := ((normalize_eq_self_iff_normal city).1 place.normal).1

theorem city_upper : city.IsUpper := ((normalize_eq_self_iff_normal city).1 place.normal).2

theorem words :
    LastLine.wordsOf (' ' :: (Place.mk city code whole).line) =
      city.words ++ [code] ++ (Text.present? whole).toList := by
  have codePlain := state_code_plain code place.listed
  have cityWords := LastLine.words_of_uncut city place.noComma
  have codeWords := LastLine.words_of_word code codePlain.is_word codePlain.uncut
  have wholeWords : LastLine.wordsOf (code ++ if whole = [] then [] else ' ' :: whole) =
      [code] ++ (Text.present? whole).toList := by
    cases place.printed with
    | none => simpa [Text.present?] using codeWords
    | code _ _ _ zipWord =>
        have plain := zipWord.plain
        rw [if_neg plain.given, LastLine.words_of_break code whole ' ' (.inl rfl), codeWords,
          LastLine.words_of_word whole plain.is_word plain.uncut,
          Text.present_given whole plain.given]
        rfl
  rw [Place.line_eq city code whole place.given codePlain.given]
  have front := LastLine.words_of_break [] (city ++ ',' :: ' ' ::
    (code ++ if whole = [] then [] else ' ' :: whole)) ' ' (.inl rfl)
  have comma := LastLine.words_of_break city (' ' ::
    (code ++ if whole = [] then [] else ' ' :: whole)) ',' (.inr rfl)
  have space := LastLine.words_of_break []
    (code ++ if whole = [] then [] else ' ' :: whole) ' ' (.inl rfl)
  simp only [List.nil_append] at front comma space
  rw [front, comma, space, cityWords, wholeWords, List.append_assoc]
  rfl

/-- The words of the city and the code are read as they were printed unless the last word of the
city goes with the code. -/
theorem city_words_read_iff :
    LastLine.ofCityWords (city.words ++ [code]) zip plus4 = ⟨city, code, zip, plus4⟩ ↔
      ¬(code = "DC".toList ∧ city.EndsInWashington) := by
  have codeWord := (state_code_plain code place.listed).is_word
  have joined := place.city_normal.unwords_words
  have ends : IsStateEnd (city.words ++ [code]) city.words [code] := by
    refine ⟨rfl, ?_⟩
    rw [Text.unwords, List.intercalate_singleton]
    exact (state_code_known code place.listed).2
  constructor
  · intro read lost
    obtain ⟨same, word, last, washington⟩ := lost
    obtain ⟨front, parted⟩ := List.getLast?_eq_some_iff.1 last
    have known := (place.city_normal.recognizes_behind_word_iff place.city_upper place.given
      place.noComma code place.listed front word parted).2 ⟨same, washington⟩
    have both : IsStateEnd (city.words ++ [code]) front [word, code] :=
      ⟨by rw [parted, List.append_assoc]; rfl, known⟩
    have longer :=
      LastLine.of_city_words_longest zip plus4 both (le_refl 2) fun _ _ _ short => short
    have states := congrArg LastLine.state (longer.symm.trans read)
    have solid : ∀ piece ∈ [word, code], piece.IsWord := by
      intro piece member
      rcases List.mem_pair.1 member with isWord | isCode
      · exact isWord ▸ Text.mem_words_word city word (by simp [parted])
      · exact isCode ▸ codeWord
    have alone : Text.unwords [code] = code := List.intercalate_singleton
    have codes := Text.unwords_injective [word, code] [code] solid (by simp [codeWord])
      (states.trans alone.symm)
    cases codes
  · intro apart
    have read := LastLine.of_city_words_longest zip plus4 ends (by simp) ?longest
    case longest =>
      intro otherCity other otherEnds short
      by_contra longer
      have size : other.length = 2 := by
        rw [List.length_singleton] at longer
        omega
      obtain ⟨word, last, pair⟩ := List.length_eq_two.1 size
      subst pair
      have split : city.words = otherCity ++ [word] ∧ [code] = [last] := by
        apply List.append_inj'
        · rw [otherEnds.parted, List.append_assoc]
          rfl
        · rfl
      obtain ⟨parted, same⟩ := split
      cases same
      have known := (place.city_normal.recognizes_behind_word_iff place.city_upper place.given
        place.noComma code place.listed otherCity word parted).1 otherEnds.known
      exact apart ⟨known.1, word, by rw [parted, List.getLast?_concat], known.2⟩
    rw [read, joined, Text.unwords, List.intercalate_singleton]

theorem last_line_read_iff :
    LastLine.ofText (' ' :: (Place.mk city code whole).line) = ⟨city, code, zip, plus4⟩ ↔
      ¬(code = "DC".toList ∧ city.EndsInWashington) := by
  have parted := place.printed.parted city.words code place.listed
  rw [← place.words] at parted
  rw [← place.city_words_read_iff, LastLine.ofText, ← LastLine.wordsOf,
    LastLine.of_words_parted parted]

end IsPrintedPlace

namespace LastLine

def value (line : LastLine) : Component → Text
  | .city => line.city
  | .state => line.state
  | .zipCode => line.zip
  | .zipPlus4 => line.plus4
  | _ => []

theorem part_tokens_texts (component part : Component) (value : Text) :
    (partTokens part value).filterMap (Token.textFor? component) =
      if part = component then (Text.present? value.trim).toList else [] := by
  cases value with
  | nil =>
      have silent : (Text.present? (Text.trim [])).toList = [] := rfl
      rw [silent, ite_self]
      rfl
  | cons letter rest =>
      have text : (Token.ofComponent part (letter :: rest)).textFor? component =
          if part = component then Text.present? (Text.trim (letter :: rest)) else none := by
        simp [Token.ofComponent, Token.text_for_label, Component.label_injective.eq_iff]
      have token : partTokens part (letter :: rest) = [.ofComponent part (letter :: rest)] := rfl
      rw [token, List.filterMap_cons, text, List.filterMap_nil]
      by_cases same : part = component
      · cases Text.present? (Text.trim (letter :: rest)) <;> simp [same]
      · simp [same]

theorem tokens_texts (line : LastLine) (component : Component) :
    line.tokens.filterMap (Token.textFor? component) =
      (Text.present? (line.value component).trim).toList := by
  rw [tokens_eq]
  simp only [List.filterMap_append, part_tokens_texts]
  cases component <;> simp [value] <;> rfl

end LastLine

theorem join_present (text : Text) :
    joinTexts (Text.present? text).toList = Text.present? text := by
  cases text with
  | nil => rfl
  | cons letter rest => simp [Text.present?, joinTexts, Text.unwords]

namespace CrossingTokens

variable {crossing : CrossingTokens} (labelled : crossing.IsLabelled)

include labelled

theorem IsLabelled.bag_values (line : LastLine) (place : crossing.place = line.tokens)
    (numberless : ∀ token ∈ crossing.tokens, token.isAddressOnly = false) (component : Component)
    (location : component ∈ Component.locationFields) :
    (Bag.ofTokens (splitStreets crossing.tokens).first).value component = [] ∧
      (Bag.ofTokens (splitStreets crossing.tokens).second).value component =
        (line.value component).trim := by
  have noNumber : component ≠ .number := by
    rintro rfl
    exact absurd location (by decide)
  have apart : ∀ location ∈ Component.locationFields, ∀ field ∈ Component.crossingFields,
      field.label ≠ location.label := by decide
  have silent (token : Token) (field : Component) (listed : field ∈ Component.crossingFields)
      (label : token.label = field.label) : token.textFor? component = none := by
    apply (Token.text_for_label token.label token.text component).trans
    apply if_neg
    intro same
    exact apart component location field listed (label.symm.trans same)
  have first : crossing.first.filterMap (Token.textFor? component) = [] := by
    rw [List.filterMap_eq_nil_iff]
    intro token member
    obtain ⟨field, listed, label⟩ :=
      (labelled.first token member).part (numberless token (by simp [tokens, member]))
    exact silent token field listed label
  have second : (crossing.second.map Token.asFirstStreet).filterMap (Token.textFor? component) =
      [] := by
    rw [List.filterMap_eq_nil_iff]
    intro token member
    obtain ⟨source, inSecond, same⟩ := List.mem_map.1 member
    obtain ⟨field, listed, label⟩ :=
      (labelled.second source inSecond).part (numberless source (by simp [tokens, inSecond]))
    apply silent token field listed
    rw [← same, Token.asFirstStreet, label, Label.as_first_of_second]
  rw [labelled.split numberless, Bag.value, Bag.value, Bag.get_of_tokens _ component noNumber,
    Bag.get_of_tokens _ component noNumber, List.filterMap_append, first, second, place,
    List.nil_append, line.tokens_texts, join_present]
  constructor
  · rfl
  · cases (line.value component).trim <;> rfl

end CrossingTokens

namespace StandardAddress

theorem side_listed (bag : Bag) (component : Component) (listed : component ∈ sideFields) :
    (bag.canonical sideFields).value component = component.canonical (bag.value component) := by
  rw [Bag.canonical, Bag.value_of_values, if_pos (by simpa using listed)]

theorem of_streets_place (first second : Bag)
    (placeless : ∀ component ∈ Component.locationFields, first.value component = []) :
    (ofStreets first second).city = Component.city.canonical (second.value .city) ∧
      (ofStreets first second).state = Component.state.canonical (second.value .state) ∧
      (ofStreets first second).zipCode = (second.canonical sideFields).wholeZip := by
  have sides (bag : Bag) (component : Component) (listed : component ∈ [Component.city, .state]) :
      (sideComponents bag).value component = component.canonical (bag.value component) := by
    have side : component ∈ sideFields ∧ component ≠ .zipCode ∧ component ≠ .zipPlus4 := by
      revert listed
      cases component <;> decide
    rw [side_value bag component side.2.1 side.2.2, side_listed bag component side.1]
  have noZip : (first.canonical sideFields).wholeZip = [] := by
    have empty : (first.canonical sideFields).value .zipCode = [] := by
      rw [side_listed _ _ (by decide), placeless _ (by decide)]
      rfl
    simp [Bag.wholeZip, Bag.has, empty]
  have firstCity : (sideComponents first).value .city = [] := by
    rw [sides _ _ (by decide), placeless _ (by decide)]
    rfl
  have firstState : (sideComponents first).value .state = [] := by
    rw [sides _ _ (by decide), placeless _ (by decide)]
    rfl
  have firstZip : (sideComponents first).value .zipCode = [] := by rw [side_zip, noZip]
  simp only [ofStreets, ofLines, Place.ofBag, Place.orElse, firstCity, firstState, firstZip,
    List.isEmpty_nil, if_true, side_zip]
  exact ⟨sides _ _ (by decide), sides _ _ (by decide), trivial⟩

end StandardAddress

theorem five_digits_written (zip : Text) (digits : isDigits 5 zip = true) :
    writeZipCode zip = zip := by
  obtain ⟨size, _⟩ := (is_digits_iff 5 zip).1 digits
  have whole : nineDigits? zip = none := by
    have noAddOn : zip.drop 5 = [] := List.drop_eq_nil_of_le (le_of_eq size)
    simp [nineDigits?, noAddOn, isDigits]
  rw [writeZipCode, (digits_plain_word 4 zip digits).fixed, whole]

namespace IsPrintedZip

variable {whole zip plus4 : Text} (printed : IsPrintedZip whole zip plus4)

include printed

theorem parts_fixed : normalize zip = zip ∧ normalize plus4 = plus4 := by
  cases printed with
  | none => exact ⟨normalize_nil, normalize_nil⟩
  | code _ _ _ zipWord =>
      cases zipWord with
      | five _ digits => exact ⟨(digits_plain_word 4 _ digits).fixed, normalize_nil⟩
      | nine _ _ digits addOn =>
          exact ⟨(digits_plain_word 4 _ digits).fixed, (digits_plain_word 3 _ addOn).fixed⟩

theorem whole_zip (bag : Bag) (zipSame : bag.value .zipCode = zip)
    (plus4Same : bag.value .zipPlus4 = plus4) : bag.wholeZip = whole := by
  rw [Bag.wholeZip, Bag.has, Bag.has, zipSame, plus4Same]
  cases printed with
  | none => rfl
  | code _ _ _ zipWord =>
      have plain := zipWord.plain
      cases zipWord with
      | five _ digits =>
          have given := plain.given
          simp [given, five_digits_written _ digits]
      | nine _ _ digits addOn =>
          have zipGiven := (digits_plain_word 4 _ digits).given
          have addOnGiven := (digits_plain_word 3 _ addOn).given
          have written : writeZipCode (zip ++ '-' :: plus4) = zip ++ '-' :: plus4 := by
            apply write_nine_digits _ zip ['-'] plus4
            rw [plain.fixed]
            exact nine_digits_hyphened zip plus4 digits addOn
          simp [zipGiven, addOnGiven, written]

end IsPrintedZip

structure IsStreetWord (word : Text) : Prop where
  is_word : word.IsWord
  numberless : ∀ letter ∈ word, isDigit letter = false
  signless : ∀ letter ∈ word, isConnectorSign letter = false
  uncut : ',' ∉ word

-- Checked along the word: the quantifiers over letters would be decided by trying all characters.
instance (word : Text) : Decidable (IsStreetWord word) :=
  decidable_of_iff (word ≠ [] ∧ ',' ∉ word ∧
      word.all (fun letter => !(isBlank letter || isDigit letter || isConnectorSign letter)) = true)
    ⟨fun ⟨given, uncut, letters⟩ => by
      simp only [List.all_eq_true, Bool.not_eq_true', Bool.or_eq_false_iff] at letters
      exact ⟨⟨given, fun letter member => (letters letter member).1.1⟩,
        fun letter member => (letters letter member).1.2,
        fun letter member => (letters letter member).2, uncut⟩,
    fun street => ⟨street.is_word.given, street.uncut, by
      simp only [List.all_eq_true, Bool.not_eq_true', Bool.or_eq_false_iff]
      exact fun letter member => ⟨⟨street.is_word.solid letter member,
        street.numberless letter member⟩, street.signless letter member⟩⟩⟩

theorem IsStreetWord.names_street {word : Text} (street : IsStreetWord word) :
    word.NamesStreet where
  solid := by
    obtain ⟨letter, rest, begins⟩ := List.exists_cons_of_ne_nil street.is_word.given
    have first : letter ∈ word := by simp [begins]
    exact Text.solid_of_letter word letter first (street.is_word.solid letter first)
  numberless := by
    intro ⟨number, next, rest, words, _⟩
    rw [street.is_word.words] at words
    cases words

def crossingText (first second : Text) (place : Place) : Text :=
  first ++ ' ' :: '&' :: ' ' :: (second ++ ',' :: ' ' :: place.line)

def wordCrossing (first second : Text) (place : Place) : Crossing :=
  ⟨first, ['&'], second ++ ',' :: ' ' :: place.line⟩

section crossingText

variable {first second : Text} (firstStreet : IsStreetWord first)
  (secondStreet : IsStreetWord second) (place : Place)

include firstStreet

theorem crossing_text_single : DualNumber.ofText? (crossingText first second place) = none := by
  obtain ⟨letter, rest, begins⟩ := List.exists_cons_of_ne_nil firstStreet.is_word.given
  have solid := firstStreet.is_word.solid letter (by simp [begins])
  have numberless := firstStreet.numberless letter (by simp [begins])
  simp [crossingText, begins, DualNumber.ofText?, Text.skipBlanks, solid, Text.readDigits?,
    numberless]

include secondStreet

/-- No connector begins inside the first word: a sign would have to be a letter of it, and a word
would have to stand behind a blank. -/
theorem crossing_text_first :
    (wordCrossing first second place).IsFirstIn (crossingText first second place) where
  cut := by
    have blank : ∀ letter ∈ [' '], isBlank letter = true := List.forall_mem_singleton.2 rfl
    refine ⟨_, rfl, [' '], [' '], rfl, ⟨blank, blank, .inl ⟨'&', rfl, rfl⟩⟩, ?_⟩
    rw [wordCrossing, List.head?_append_of_ne_nil _ secondStreet.is_word.given]
    intro letter member
    exact secondStreet.is_word.solid letter (List.mem_of_head? member)
  first front rest connector behind parted shorter begins := by
    obtain ⟨gap, back, split, isConnector, _⟩ := begins
    have ahead : front.length < first.length := shorter
    obtain ⟨middle, same, tail⟩ : ∃ middle, first = front ++ middle ∧
        rest = middle ++ ' ' :: '&' :: ' ' :: (second ++ ',' :: ' ' :: place.line) := by
      rcases List.append_eq_append_iff.1 parted with ⟨middle, longer, _⟩ | ⟨middle, same, tail⟩
      · rw [longer, List.length_append] at ahead
        omega
      · exact ⟨middle, same, tail⟩
    have middleGiven : middle ≠ [] := by
      rintro rfl
      rw [same, List.append_nil] at ahead
      exact lt_irrefl _ ahead
    obtain ⟨letter, others, middleBegins⟩ := List.exists_cons_of_ne_nil middleGiven
    have inside : letter ∈ first := by simp [same, middleBegins]
    have noGap : gap = [] := by
      by_contra given
      obtain ⟨space, more, gapBegins⟩ := List.exists_cons_of_ne_nil given
      have blank := isConnector.frontBlank space (by simp [gapBegins])
      rw [tail, middleBegins, gapBegins] at split
      rw [← (List.cons.inj split).1, firstStreet.is_word.solid letter inside] at blank
      cases blank
    rcases isConnector.kind with ⟨sign, isSign, connectorSame⟩ | ⟨_, gapGiven, _⟩
    · rw [tail, middleBegins, noGap, connectorSame] at split
      rw [← (List.cons.inj split).1, firstStreet.signless letter inside] at isSign
      cases isSign
    · exact gapGiven noGap

end crossingText

/-- A crossing that names two streets is standardized with the place of its last line. -/
theorem Crossing.standardized_place (crossing : Crossing)
    (first : crossing.before.NamesStreet) (second : crossing.secondStreet.NamesStreet)
    (city code whole zip plus4 : Text) (place : IsPrintedPlace city code whole zip plus4)
    (read : LastLine.ofText crossing.lastLine = ⟨city, code, zip, plus4⟩) :
    let address := standardize
      (Interpretation.ofTagging (.parsed .intersection crossing.parts.tokens)).components
    address.city = city ∧ address.state = code ∧ address.zipCode = whole := by
  have named := crossing.names_two_streets_iff.2 ⟨first, second⟩
  have numberless := ((intersection_names_two_streets_iff _).1 named).1
  have pair := (Interpretation.components_eq_pair_iff _ _ _).2 ⟨named, rfl, rfl⟩
  have values := crossing.parts_labelled.bag_values ⟨city, code, zip, plus4⟩
    (congrArg LastLine.tokens read) numberless
  have placeless (component : Component) (location : component ∈ Component.locationFields) :=
    (values component location).1
  have given (component : Component) (location : component ∈ Component.locationFields) :=
    (values component location).2
  obtain ⟨zipFixed, plus4Fixed⟩ := place.printed.parts_fixed
  have wholeZip := place.printed.whole_zip
    ((Bag.ofTokens (splitStreets crossing.parts.tokens).second).canonical
      StandardAddress.sideFields)
  obtain ⟨cities, states, zips⟩ := StandardAddress.of_streets_place _
    (Bag.ofTokens (splitStreets crossing.parts.tokens).second) placeless
  intro address
  have standard : address = StandardAddress.ofStreets
      (Bag.ofTokens (splitStreets crossing.parts.tokens).first)
      (Bag.ofTokens (splitStreets crossing.parts.tokens).second) := by
    simp only [address, pair, standardize, Tagging.tokens]
  rw [standard, cities, states, zips]
  refine ⟨?_, ?_, wholeZip ?_ ?_⟩
  · rw [given .city (by decide), Component.canonical_trim]
    exact Component.city.canonical_of_fixed city place.normal rfl
  · rw [given .state (by decide), Component.canonical_trim,
      Component.canonical_of_table .state _ rfl]
    exact (state_code_known code place.listed).1
  · rw [StandardAddress.side_listed _ _ (by decide), given .zipCode (by decide),
      Component.canonical_trim]
    exact Component.zipCode.canonical_of_fixed zip zipFixed rfl
  · rw [StandardAddress.side_listed _ _ (by decide), given .zipPlus4 (by decide),
      Component.canonical_trim]
    exact Component.zipPlus4.canonical_of_fixed plus4 plus4Fixed rfl

/-- A printed last line behind two streets is read back exactly if it is not that of a city whose
last word is taken for a part of WASHINGTON DC. -/
theorem printed_last_line_read_iff (locate : Locator) (first second : Text)
    (firstStreet : IsStreetWord first) (secondStreet : IsStreetWord second)
    (city code whole zip plus4 : Text) (place : IsPrintedPlace city code whole zip plus4)
    (unread : locate (crossingText first second ⟨city, code, whole⟩) = none) :
    let tagging := (Tagger.locating locate (crossingText first second ⟨city, code, whole⟩)).value
    let address := standardize (Interpretation.ofTagging tagging).components
    (tagging.tokens.filter Token.isLocation = (LastLine.mk city code zip plus4).tokens ∧
        address.city = city ∧ address.state = code ∧ address.zipCode = whole) ↔
      ¬(code = "DC".toList ∧ city.EndsInWashington) := by
  intro tagging address
  have single : DualNumber.ofText? (crossingText first second ⟨city, code, whole⟩) = none :=
    crossing_text_single firstStreet _
  have isFirst := crossing_text_first firstStreet secondStreet ⟨city, code, whole⟩
  obtain ⟨secondSame, lastSame⟩ := (wordCrossing first second ⟨city, code, whole⟩).parted_at_comma
    second (' ' :: (Place.mk city code whole).line) rfl secondStreet.uncut
  have located := Tagger.unlocated_location_tokens locate _ single unread _ isFirst
  rw [lastSame] at located
  rw [← place.last_line_read_iff]
  constructor
  · intro ⟨tokens, _⟩
    exact LastLine.tokens_injective _ _ (located.symm.trans tokens)
  · intro read
    refine ⟨located.trans (congrArg LastLine.tokens read), ?_⟩
    have crossed := (Crossing.of_text_eq_some_iff _ _).2 isFirst
    have solid := ((Text.has_connector_iff _).2 ⟨_, crossed⟩).solid
    have tagged := Tagger.locating_unlocated locate _ solid single unread
    rw [Tagger.tag_unlocated_crossing _ _ crossed] at tagged
    have standard := (wordCrossing first second ⟨city, code, whole⟩).standardized_place
      firstStreet.names_street (by rw [secondSame]; exact secondStreet.names_street)
      city code whole zip plus4 place (lastSame ▸ read)
    rw [← tagged] at standard
    exact standard

theorem oak_and_elm_in_key_west :
    let place : Place := ⟨"KEY WEST".toList, "FL".toList, "33040-1234".toList⟩
    let text := crossingText "Oak".toList "Elm".toList place
    let tagging := (Tagger.locating (fun _ => none) text).value
    text = "Oak & Elm, KEY WEST, FL 33040-1234".toList ∧
      tagging.tokens.filter Token.isLocation =
        [.ofComponent .city "KEY WEST".toList, .ofComponent .state "FL".toList,
          .ofComponent .zipCode "33040".toList, .ofComponent .zipPlus4 "1234".toList] ∧
      (standardize (Interpretation.ofTagging tagging).components).zipCode =
        "33040-1234".toList := by
  intro place text tagging
  have firstStreet : IsStreetWord "Oak".toList := by decide
  have secondStreet : IsStreetWord "Elm".toList := by decide
  have zip : IsZipWord "33040-1234".toList "33040".toList "1234".toList :=
    .nine "33040".toList "1234".toList (by decide) (by decide)
  have printed : IsPrintedPlace "KEY WEST".toList "FL".toList "33040-1234".toList "33040".toList
      "1234".toList :=
    ⟨by decide +kernel, by decide, by decide, by decide +kernel, .code _ _ _ zip⟩
  have read := (printed_last_line_read_iff (fun _ => none) _ _ firstStreet secondStreet _ _ _ _ _
    printed rfl).2 fun exception => absurd exception.1 (by decide)
  exact ⟨by decide +kernel, read.1, read.2.2.2⟩

/-- The word of the city is read as part of the state, and the city is lost. -/
theorem washington_lost :
    let text := crossingText "Oak".toList "Elm".toList
      ⟨"WASHINGTON".toList, "DC".toList, "20001".toList⟩
    let tagging := (Tagger.locating (fun _ => none) text).value
    normalize "WASHINGTON".toList = "WASHINGTON".toList ∧ "DC".toList ∈ stateCodes ∧
      tagging.tokens.filter Token.isLocation =
        [.ofComponent .state "WASHINGTON DC".toList, .ofComponent .zipCode "20001".toList] ∧
      (standardize (Interpretation.ofTagging tagging).components).city = [] := by
  decide +kernel

end PostalAddress
