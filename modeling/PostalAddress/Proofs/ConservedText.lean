import PostalAddress.Proofs.BareCrossings

/-!
Nothing of a text is lost where its intersection is labelled word by word. Blanks, commas and
hyphens part a text, and what is left of it without them is its ink. The tokens have the ink of the
text in its order: each part of the labelling takes a text apart, and the ink of the parts is the
ink of the whole.
-/

namespace PostalAddress

/-- Whether a letter stands between the parts of an address and belongs to none. -/
def isParting (letter : Char) : Bool := isBlank letter || letter = ',' || letter = '-'

namespace Text

def ink (text : Text) : Text := text.filter fun letter => !isParting letter

theorem ink_append (front behind : Text) : ink (front ++ behind) = ink front ++ ink behind :=
  List.filter_append front behind

theorem ink_cons_parting (letter : Char) (rest : Text) (parts : isParting letter = true) :
    ink (letter :: rest) = ink rest :=
  List.filter_cons_of_neg (by simp [parts])

theorem blank_parts (letter : Char) (blank : isBlank letter = true) : isParting letter = true := by
  simp [isParting, blank]

theorem ink_blank (text : Text) (blank : ∀ letter ∈ text, isBlank letter = true) :
    ink text = [] := by
  apply List.filter_eq_nil_iff.2
  intro letter member
  simp [blank_parts letter (blank letter member)]

theorem ink_words (text : Text) : ink text.words.flatten = ink text := by
  have kept (letter : Char) : (!isParting letter && !isBlank letter) = !isParting letter := by
    cases blank : isBlank letter with
    | true => simp [blank_parts letter blank]
    | false => simp
  rw [words_flatten, ink, List.filter_filter, ink]
  simp only [kept]

theorem ink_unwords (pieces : List Text) : ink (unwords pieces) = ink pieces.flatten := by
  induction pieces with
  | nil => rfl
  | cons piece others induction =>
      cases others with
      | nil => simp [unwords]
      | cons next rest =>
          have space : ink [' '] = [] := rfl
          rw [unwords, List.intercalate_cons_cons, ← unwords, ink_append, ink_append, induction,
            space, List.append_nil]
          exact (ink_append piece _).symm

theorem ink_commas_blanked (text : Text) :
    ink (text.map fun letter => if letter = ',' then ' ' else letter) = ink text := by
  induction text with
  | nil => rfl
  | cons head rest induction =>
      rw [List.map_cons]
      split
      case isTrue comma =>
        subst comma
        rw [ink_cons_parting _ _ rfl, ink_cons_parting _ _ rfl, induction]
      case isFalse =>
        rw [ink, ink, List.filter_cons, List.filter_cons, ← ink, ← ink, induction]

theorem present_flatten (text : Text) : (present? text).toList.flatten = text := by
  cases text with
  | nil => rfl
  | cons letter rest => exact List.append_nil _

end Text

theorem Token.part_texts (write : Text → Token) (writes : ∀ text, (write text).text = text)
    (text? : Option Text) :
    (text?.map write).toList.flatMap Token.text = text?.toList.flatten := by
  cases text? with
  | none => rfl
  | some text => simp [writes]

namespace StreetWords

theorem ink_tokens (label : Component → Text) (street : StreetWords) :
    Text.ink ((street.tokens label).flatMap Token.text) = Text.ink street.words.flatten := by
  have part (heading : Text) (text? : Option Text) :=
    Token.part_texts (Token.mk heading) (fun _ => rfl) text?
  have number := Token.part_texts (Token.ofComponent .number) (fun _ => rfl) street.number
  simp only [tokens, words, List.flatMap_append, List.flatten_append, Text.ink_append, part, number,
    Text.present_flatten, Text.ink_unwords, List.append_assoc]

end StreetWords

theorem tag_street_ink (label : Component → Text) (text : Text) :
    Text.ink ((tagStreet label text).flatMap Token.text) = text.ink := by
  rw [tagStreet, StreetWords.ink_tokens, StreetWords.words_of_words, Text.ink_words]

theorem zip_word_ink (word zip plus4 : Text) (read : zipWord? word = some (zip, plus4)) :
    word.ink = zip.ink ++ plus4.ink := by
  rw [zipWord?] at read
  split at read
  case h_1 zone addOn cut =>
    obtain ⟨parted, _⟩ := (Text.cut_at_eq_some_iff '-' _ _ _).1 cut
    obtain ⟨_, same⟩ := Option.ite_none_right_eq_some.1 read
    cases same
    rw [parted, Text.ink_append, Text.ink_cons_parting _ _ rfl]
  case h_2 =>
    obtain ⟨_, same⟩ := Option.ite_none_right_eq_some.1 read
    cases same
    exact (List.append_nil _).symm

theorem state_words_ink (words : List Text) (count : Nat) (state : Text) (city : List Text)
    (read : stateWords? words count = some (state, city)) :
    Text.ink words.flatten = Text.ink city.flatten ++ state.ink := by
  obtain ⟨_, same⟩ := Option.ite_none_right_eq_some.1 read
  cases same
  rw [Text.ink_unwords, ← Text.ink_append, ← List.flatten_append, List.take_append_drop]

namespace LastLine

def ink (line : LastLine) : Text :=
  line.city.ink ++ (line.state.ink ++ (line.zip.ink ++ line.plus4.ink))

theorem ink_tokens (line : LastLine) : Text.ink (line.tokens.flatMap Token.text) = line.ink := by
  have part (component : Component) (value : Text) :
      ((Text.present? value).map (Token.ofComponent component)).toList.flatMap Token.text =
        value := by
    rw [Token.part_texts (Token.ofComponent component) (fun _ => rfl), Text.present_flatten]
  rw [tokens, List.filterMap_eq_flatMap_toList, List.flatMap_assoc]
  simp only [part]
  simp [ink, Text.ink_append]

theorem of_city_words_ink (words : List Text) (zip plus4 : Text) :
    (ofCityWords words zip plus4).ink = Text.ink words.flatten ++ (zip.ink ++ plus4.ink) := by
  rw [ofCityWords]
  split
  case h_1 state city found =>
    obtain ⟨count, _, read⟩ := List.exists_of_findSome?_eq_some found
    rw [state_words_ink words count state city read, ink, Text.ink_unwords, List.append_assoc]
  case h_2 =>
    rw [ink, Text.ink_unwords]
    rfl

theorem of_words_ink (words : List Text) : (ofWords words).ink = Text.ink words.flatten := by
  rw [ofWords]
  split
  case h_1 zip plus4 found =>
    obtain ⟨last, ends, read⟩ := Option.bind_eq_some_iff.1 found
    rw [of_city_words_ink, ← zip_word_ink last zip plus4 read, ← Text.ink_append]
    have parts := congrArg List.flatten (List.dropLast_append_getLast? last ends)
    simpa using congrArg Text.ink parts
  case h_2 =>
    rw [of_city_words_ink]
    exact List.append_nil _

theorem of_text_ink (text : Text) :
    Text.ink ((ofText text).tokens.flatMap Token.text) = text.ink := by
  rw [ink_tokens, ofText, of_words_ink, Text.ink_words, Text.ink_commas_blanked]

end LastLine

namespace Crossing

theorem ink_behind (crossing : Crossing) :
    crossing.behind.ink = crossing.secondStreet.ink ++ crossing.lastLine.ink := by
  rw [secondStreet, lastLine]
  cases cut : Text.cutAt? (· = ',') crossing.behind with
  | none => exact (List.append_nil _).symm
  | some parts =>
      obtain ⟨parted, _⟩ := (Text.cut_at_eq_some_iff ',' _ _ _).1 cut
      rw [parted, Text.ink_append, Text.ink_cons_parting _ _ rfl]
      rfl

theorem ink_tokens (crossing : Crossing) :
    Text.ink (crossing.parts.tokens.flatMap Token.text) =
      crossing.before.ink ++ (crossing.connector.ink ++ crossing.behind.ink) := by
  rw [CrossingTokens.tokens, parts]
  simp only [List.flatMap_append, List.flatMap_cons, Text.ink_append, tag_street_ink,
    LastLine.of_text_ink, ink_behind]
  rfl

theorem IsFirstIn.ink {crossing : Crossing} {text : Text} (first : crossing.IsFirstIn text) :
    text.ink = crossing.before.ink ++ (crossing.connector.ink ++ crossing.behind.ink) := by
  obtain ⟨rest, parted, front, back, split, isConnector, _⟩ := first.cut
  rw [parted, split]
  simp only [Text.ink_append, Text.ink_blank front isConnector.frontBlank,
    Text.ink_blank back isConnector.backBlank, List.nil_append]

end Crossing

/-- The tokens of an unlocated intersection are written with the letters of the text in their order,
and with all of them that part nothing. -/
theorem unlocated_crossing_conserved (locate : Locator) (text : Text)
    (single : DualNumber.ofText? text = none) (unread : locate text = none)
    (crossed : text.HasConnector) :
    Text.ink ((Tagger.locating locate text).value.tokens.flatMap Token.text) = text.ink := by
  obtain ⟨crossing, read⟩ := text.has_connector_iff.1 crossed
  have first := (Crossing.of_text_eq_some_iff text crossing).1 read
  rw [Tagger.locating_unlocated locate text crossed.solid single unread,
    Tagger.tag_unlocated_crossing text crossing read, Tagging.tokens, crossing.ink_tokens,
    first.ink]

theorem hollywood_and_vine_conserved :
    let text : Text := "N Hollywood Blvd and Vine St, Los Angeles, CA 90028-1234".toList
    DualNumber.ofText? text = none ∧ text.HasConnector ∧
      Text.ink ((Tagger.locating (fun _ => none) text).value.tokens.flatMap Token.text) =
        "NHollywoodBlvdandVineStLosAngelesCA900281234".toList := by
  intro text
  have single : DualNumber.ofText? text = none := by decide +kernel
  have crossed : text.HasConnector := by decide +kernel
  refine ⟨single, crossed, ?_⟩
  rw [unlocated_crossing_conserved (fun _ => none) text single rfl crossed]
  decide +kernel

end PostalAddress
