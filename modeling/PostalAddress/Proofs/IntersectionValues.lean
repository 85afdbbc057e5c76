import PostalAddress.Proofs.ParsedForm

/-!
What the two bags of an intersection hold, said by the labels and the places of the tokens alone:
each value is the texts of the tokens that belong to its component on its street, in their order
and each once, with single spaces between them. Location tokens belong to the first street in
front of the turning and to the second one behind it.
-/

namespace PostalAddress

theorem Text.unwords_concat (pieces : List Text) (text : Text) (given : pieces ≠ []) :
    unwords (pieces ++ [text]) = unwords pieces ++ [' '] ++ text := by
  induction pieces with
  | nil => exact absurd rfl given
  | cons piece others induction =>
      cases others with
      | nil => simp [unwords]
      | cons next rest =>
          have tail := induction (List.cons_ne_nil _ _)
          simp only [unwords, List.cons_append, List.intercalate_cons_cons, List.append_assoc]
            at tail ⊢
          rw [tail]

def joinTexts (texts : List Text) : Option Text :=
  if texts = [] then none else some (Text.unwords texts)

theorem join_texts_concat (texts : List Text) (text : Text) :
    joinTexts (texts ++ [text]) =
      some ((joinTexts texts).elim text fun joined => joined ++ [' '] ++ text) := by
  by_cases none : texts = []
  · simp [none, joinTexts, Text.unwords]
  · simp only [joinTexts, none, if_false, Option.elim_some, Text.unwords_concat texts text none]
    simp

theorem Component.label_injective : Function.Injective Component.label := by
  intro left right same
  have named := Label.component_label left
  rw [same, Label.component_label, Option.some.injEq] at named
  exact named.symm

/-- The text that a token adds to a component. -/
def Token.textFor? (component : Component) (token : Token) : Option Text :=
  if token.component? = some component then Text.present? token.text.trim else none

theorem Token.text_for_label (label text : Text) (component : Component) :
    (Token.mk label text).textFor? component =
      if label = component.label then Text.present? text.trim else none := by
  simp only [textFor?, component?, Label.component_eq_some_iff, @eq_comm _ label]

theorem Token.text_for_eq_some_iff (component : Component) (token : Token) (text : Text) :
    token.textFor? component = some text ↔ token.value? = some (component, text) := by
  constructor
  · intro given
    obtain ⟨labelled, present⟩ := Option.ite_none_right_eq_some.1 given
    rw [value?, token.labelled_no_separator component labelled, labelled, Option.bind_some,
      present]
    rfl
  · intro added
    obtain ⟨labelled, written, filled⟩ := token.value_parts component text added
    rw [textFor?, if_pos labelled, written]
    cases text with
    | nil => exact absurd rfl filled
    | cons letter rest => rfl

namespace Bag

theorem of_tokens_without_text (tokens : List Token) (token : Token) (component : Component)
    (silent : token.textFor? component = none) :
    (ofTokens (tokens ++ [token])).get component = (ofTokens tokens).get component := by
  rw [ofTokens, List.foldl_concat]
  cases traced : token.value? with
  | none => rw [Joining.step_without_value _ _ traced, ofTokens]
  | some entry =>
      obtain ⟨changed, value⟩ := entry
      have other : component ≠ changed := by
        rintro rfl
        rw [(token.text_for_eq_some_iff component value).2 traced] at silent
        cases silent
      rw [Joining.step_with_value _ _ _ _ traced]
      exact get_set_other _ _ _ _ other

/-- The text of a token stands behind what its component has, with the joiner that the walk over the
tokens before has come to. -/
theorem of_tokens_joined (tokens : List Token) (token : Token) (component : Component)
    (text : Text) (added : token.textFor? component = some text) :
    (ofTokens (tokens ++ [token])).get component =
      some (((ofTokens tokens).get component).elim text fun value =>
        value ++ Joining.joiner component (tokens.foldl Joining.step .start).trail ++ text) := by
  have traced := (token.text_for_eq_some_iff component text).1 added
  rw [ofTokens, List.foldl_concat, Joining.step_with_value _ _ _ _ traced, Joining.append,
    get_set_self, ← ofTokens, has, value]
  cases held : (ofTokens tokens).get component with
  | none => rfl
  | some value =>
      -- No bag of tokens holds a blank value, so a value is there to be appended to.
      have solid := of_tokens_holds_no_blank tokens component value held
      have filled : value ≠ [] := by
        rintro rfl
        cases solid
      simp [filled]

theorem of_tokens_with_text (tokens : List Token) (token : Token) (component : Component)
    (text : Text) (noNumber : component ≠ .number) (added : token.textFor? component = some text) :
    (ofTokens (tokens ++ [token])).get component =
      some (((ofTokens tokens).get component).elim text fun value => value ++ [' '] ++ text) := by
  have space (trail : NumberTrail) : Joining.joiner component trail = [' '] := by
    simp [Joining.joiner, noNumber]
  rw [of_tokens_joined tokens token component text added, space]

/-- Except for house numbers, the value of a component is the texts of its tokens. -/
theorem get_of_tokens (tokens : List Token) (component : Component)
    (noNumber : component ≠ .number) :
    (ofTokens tokens).get component = joinTexts (tokens.filterMap (Token.textFor? component)) := by
  induction tokens using List.reverseRecOn with
  | nil => rfl
  | append_singleton tokens token induction =>
      rw [List.filterMap_append]
      cases added : token.textFor? component with
      | none =>
          rw [of_tokens_without_text tokens token component added, induction]
          simp [added]
      | some text =>
          rw [of_tokens_with_text tokens token component text noNumber added, induction,
            ← join_texts_concat]
          simp [added]

theorem get_of_tokens_unnumbered (tokens : List Token)
    (unnumbered : ∀ token ∈ tokens, token.component? ≠ some .number) (component : Component) :
    (ofTokens tokens).get component = joinTexts (tokens.filterMap (Token.textFor? component)) := by
  by_cases number : component = .number
  · subst number
    have silent : tokens.filterMap (Token.textFor? .number) = [] := by
      rw [List.filterMap_eq_nil_iff]
      intro token member
      rw [Token.textFor?, if_neg (unnumbered token member)]
    rw [silent]
    exact Joining.run_keeps .start tokens .number unnumbered
  · exact get_of_tokens tokens component number

end Bag

/-- The label is the one of the component, which is of a street, behind the word that marks the
second street. -/
def Token.IsOnSecond (token : Token) (component : Component) : Prop :=
  ∃ label, token.label = "Second".toList ++ label ∧ "Street".toList <+: label ∧
    Label.component? label = some component

theorem Token.is_on_second_iff (token : Token) (component : Component) :
    token.IsOnSecond component ↔
      token.isSecondStreet = true ∧ token.asFirstStreet.component? = some component := by
  constructor
  · rintro ⟨label, labelled, ⟨rest, rfl⟩, named⟩
    constructor
    · exact token.is_second_street_iff.2 ⟨rest, labelled.symm⟩
    · have first : Label.asFirstStreet token.label = "Street".toList ++ rest := by
        rw [labelled]
        rfl
      rw [Token.component?, Token.asFirstStreet, first, named]
  · rintro ⟨second, named⟩
    refine ⟨token.asFirstStreet.label, ?_, as_first_street_begins token second, named⟩
    obtain ⟨rest, label⟩ := token.is_second_street_iff.1 second
    rw [Token.asFirstStreet, Label.asFirstStreet, ← label]
    rfl

instance (token : Token) (component : Component) : Decidable (token.IsOnSecond component) :=
  decidable_of_iff _ (token.is_on_second_iff component).symm

/-- The trimmed texts that are not blank, of the tokens that belong somewhere by what they are and
where they stand. -/
def textsWhere (belongs : Token → Nat → Bool) (tokens : List Token) : List Text :=
  tokens.zipIdx.filterMap fun (token, place) =>
    if belongs token place then Text.present? token.text.trim else none

def firstTexts (tokens : List Token) (component : Component) : List Text :=
  textsWhere (fun token place => token.component? = some component ∧
    ¬"SecondStreet".toList <+: token.label ∧
    (token.isLocation = true → place < turningPlace tokens)) tokens

def secondTexts (tokens : List Token) (component : Component) : List Text :=
  textsWhere (fun token place => token.IsOnSecond component ∨
    token.isLocation = true ∧ token.component? = some component ∧
      turningPlace tokens < place) tokens

theorem Token.turns_iff_second (token : Token) (component : Component)
    (labelled : token.component? = some component) : token.turns = token.isSecondStreet := by
  rw [Token.turns, token.labelled_no_separator component labelled, Bool.false_or]

theorem first_stream_texts (tokens : List Token) (component : Component) :
    (splitStreets tokens).first.filterMap (Token.textFor? component) =
      firstTexts tokens component := by
  rw [split_streets_by_place, List.filterMap_filterMap, firstTexts, textsWhere]
  apply List.filterMap_congr
  rintro ⟨token, place⟩ _
  by_cases labelled : token.component? = some component
  · have turns := token.turns_iff_second component labelled
    have second := token.is_second_street_iff
    simp only [Streams.firstAt, turns, labelled, ← second]
    cases token.isSecondStreet <;> cases token.isLocation <;>
      by_cases early : place < turningPlace tokens <;>
        simp [early, Token.textFor?, labelled]
  · have silent : token.textFor? component = none := if_neg labelled
    simp only [Streams.firstAt, labelled]
    split <;> simp [silent]

theorem second_stream_texts (tokens : List Token) (component : Component) :
    (splitStreets tokens).second.filterMap (Token.textFor? component) =
      secondTexts tokens component := by
  rw [split_streets_by_place, List.filterMap_filterMap, secondTexts, textsWhere]
  apply List.filterMap_congr
  rintro ⟨token, place⟩ _
  simp only [Streams.secondAt, token.is_on_second_iff component]
  cases second : token.isSecondStreet with
  | true =>
      have noLocation := token.turn_no_location (by simp [Token.turns, second])
      simp [noLocation, Token.textFor?, Token.asFirstStreet]
  | false =>
      cases token.isLocation <;> by_cases late : turningPlace tokens < place <;>
        simp [late, Token.textFor?]

theorem parsed_intersection_tagging (tagger : Tagger) (text : Text)
    (classified : (parse tagger text).value.classification = .intersection) :
    (parse tagger text).value = ⟨text, .ofTagging (tagger (cleanText text)).value⟩ ∧
      (tagger (cleanText text)).value.NamesTwoStreets := by
  by_cases empty : cleanText text = []
  · rw [parse_of_no_text tagger text empty] at classified
    cases classified
  · have parsed := parse_of_text tagger text empty
    rw [parsed] at classified
    have read := (Interpretation.classification_of_tagging _).symm.trans classified
    exact ⟨parsed, (classify_eq_intersection_iff _).1 read⟩

/-- Each value of an intersection is made of the texts that belong to it, of all of them, in their
order. -/
theorem parse_intersection_values (tagger : Tagger) (text : Text)
    (classified : (parse tagger text).value.classification = .intersection) :
    let tokens := (tagger (cleanText text)).value.tokens
    ∃ first second, (parse tagger text).value.components = .pair first second ∧
      ∀ component, first.get component = joinTexts (firstTexts tokens component) ∧
        second.get component = joinTexts (secondTexts tokens component) := by
  obtain ⟨parsed, named⟩ := parsed_intersection_tagging tagger text classified
  obtain ⟨firstUnnumbered, secondUnnumbered⟩ := named.no_address_part .number (by decide)
  rw [parsed]
  refine ⟨_, _, (Interpretation.components_eq_pair_iff _ _ _).2 ⟨named, rfl, rfl⟩, ?_⟩
  intro component
  rw [Bag.get_of_tokens_unnumbered _ firstUnnumbered, first_stream_texts,
    Bag.get_of_tokens_unnumbered _ secondUnnumbered, second_stream_texts]
  exact ⟨rfl, rfl⟩

theorem main_and_elm_values :
    (parse (.fixed mainAndElm) "Main & Elm".toList).value.classification = .intersection ∧
      ∃ first second,
        (parse (.fixed mainAndElm) "Main & Elm".toList).value.components =
          .pair first second ∧
        first.get .streetName = some "Main Road".toList ∧ first.get .posttype = none ∧
        first.get .city = some "Alton".toList ∧ first.get .state = none ∧
        second.get .streetName = some "Elm".toList ∧ second.get .state = some "IL".toList := by
  have classified :
      (parse (.fixed mainAndElm) "Main & Elm".toList).value.classification = .intersection := by
    decide +kernel
  obtain ⟨first, second, bags, values⟩ := parse_intersection_values _ _ classified
  refine ⟨classified, first, second, bags, ?_⟩
  simp only [values]
  decide +kernel

end PostalAddress
