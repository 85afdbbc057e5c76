import PostalAddress.Proofs.BlankValues
import PostalAddress.Proofs.ComponentShape
import PostalAddress.Proofs.Streams

/-!
What a text is parsed to, whatever the tagger answers about it. Three kinds of answers are told
apart: those that name two streets and nothing that an address alone has, those that are doubtful,
and the street addresses. Only the first are parsed to two bags, and these have no part of an
address alone. No bag has a field outside the components, or a blank value.
-/

namespace PostalAddress

namespace Tagging

/-- An intersection with both of its street names and without any part of an address alone. -/
def NamesTwoStreets (tagging : Tagging) : Prop :=
  ∃ tokens, tagging = .parsed .intersection tokens ∧
    (∀ token ∈ tokens, ∀ component ∈ Component.addressOnly, token.label ≠ component.label) ∧
    (∃ token ∈ tokens, token.label = Component.streetName.label) ∧
    ∃ token ∈ tokens, token.label = Label.ofSecondStreet .streetName

/-- What is ambiguous unless it names two streets. -/
def IsDoubtful (tagging : Tagging) : Prop :=
  (∃ label tokens, tagging = .repeatedLabel label tokens) ∨
    (∃ tokens, tagging = .parsed .intersection tokens) ∨
    ∃ token ∈ tagging.tokens, "SecondStreet".toList <+: token.label

end Tagging

theorem Token.is_address_only_iff (token : Token) :
    token.isAddressOnly = true ↔
      ∃ component ∈ Component.addressOnly, token.label = component.label := by
  rw [isAddressOnly, List.any_eq_true]
  simp only [decide_eq_true_eq, @eq_comm _ token.label]

theorem Token.is_second_street_iff (token : Token) :
    token.isSecondStreet = true ↔ "SecondStreet".toList <+: token.label :=
  List.isPrefixOf_iff_prefix

theorem intersection_names_two_streets_iff (tokens : List Token) :
    (Tagging.parsed .intersection tokens).NamesTwoStreets ↔
      (∀ token ∈ tokens, token.isAddressOnly = false) ∧ tokens.any Token.isStreetName = true ∧
        tokens.any Token.isSecondStreetName = true := by
  have lacking : (∀ token ∈ tokens, token.isAddressOnly = false) ↔
      ∀ token ∈ tokens, ∀ component ∈ Component.addressOnly, token.label ≠ component.label := by
    simp only [← Bool.not_eq_true, Token.is_address_only_iff, not_exists, not_and, ne_eq]
  simp [Tagging.NamesTwoStreets, lacking, Token.isStreetName, Token.isSecondStreetName]

theorem street_doubtful_iff (tokens : List Token) :
    (Tagging.parsed .streetAddress tokens).IsDoubtful ↔
      ∃ token ∈ tokens, token.isSecondStreet = true := by
  simp only [Tagging.IsDoubtful, Tagging.tokens, Token.is_second_street_iff]
  simp

theorem Tagging.NamesTwoStreets.doubtful {tagging : Tagging} (named : tagging.NamesTwoStreets) :
    tagging.IsDoubtful := by
  obtain ⟨tokens, rfl, _⟩ := named
  exact .inr (.inl ⟨tokens, rfl⟩)

theorem classify_intersection_cases (tokens : List Token) :
    classifyIntersection tokens = .intersection ∧
        (Tagging.parsed .intersection tokens).NamesTwoStreets ∨
      (∃ doubt, classifyIntersection tokens = .ambiguous doubt) ∧
        ¬(Tagging.parsed .intersection tokens).NamesTwoStreets := by
  rw [intersection_names_two_streets_iff, classifyIntersection]
  cases found : tokens.find? Token.isAddressOnly with
  | some token =>
      have part := List.find?_some found
      refine .inr ⟨⟨_, rfl⟩, fun named => ?_⟩
      rw [named.1 token (List.mem_of_find?_eq_some found)] at part
      cases part
  | none =>
      have lacking : ∀ token ∈ tokens, token.isAddressOnly = false := by
        simpa using List.find?_eq_none.1 found
      by_cases named : (tokens.any Token.isStreetName &&
          tokens.any Token.isSecondStreetName) = true
      · exact .inl ⟨if_pos named, lacking, Bool.and_eq_true_iff.1 named⟩
      · exact .inr ⟨⟨_, if_neg named⟩, fun both => named (Bool.and_eq_true_iff.2 both.2)⟩

theorem classify_street_cases (tokens : List Token) :
    (∃ doubt, classifyStreetAddress tokens = .ambiguous doubt) ∧
        (Tagging.parsed .streetAddress tokens).IsDoubtful ∨
      classifyStreetAddress tokens = .streetAddress ∧
        ¬(Tagging.parsed .streetAddress tokens).IsDoubtful := by
  rw [street_doubtful_iff, classifyStreetAddress]
  cases found : tokens.find? Token.isSecondStreet with
  | some token =>
      exact .inl ⟨⟨_, rfl⟩, token, List.mem_of_find?_eq_some found, List.find?_some found⟩
  | none =>
      refine .inr ⟨rfl, ?_⟩
      rintro ⟨token, listed, second⟩
      exact List.find?_eq_none.1 found token listed second

theorem classify_cases (tagging : Tagging) :
    classify tagging = .intersection ∧ tagging.NamesTwoStreets ∨
      (∃ doubt, classify tagging = .ambiguous doubt) ∧ tagging.IsDoubtful ∧
        ¬tagging.NamesTwoStreets ∨
      classify tagging = .streetAddress ∧ ¬tagging.IsDoubtful := by
  cases tagging with
  | repeatedLabel label tokens =>
      refine .inr (.inl ⟨⟨_, rfl⟩, .inl ⟨label, tokens, rfl⟩, ?_⟩)
      rintro ⟨_, impossible, _⟩
      cases impossible
  | parsed mode tokens =>
      cases mode with
      | intersection =>
          rcases classify_intersection_cases tokens with named | ⟨doubt, unnamed⟩
          · exact .inl named
          · exact .inr (.inl ⟨doubt, .inr (.inl ⟨tokens, rfl⟩), unnamed⟩)
      | streetAddress =>
          rcases classify_street_cases tokens with ⟨doubt, doubtful⟩ | doubtless
          · refine .inr (.inl ⟨doubt, doubtful, ?_⟩)
            rintro ⟨_, impossible, _⟩
            cases impossible
          · exact .inr (.inr doubtless)

theorem classify_eq_intersection_iff (tagging : Tagging) :
    classify tagging = .intersection ↔ tagging.NamesTwoStreets := by
  rcases classify_cases tagging with ⟨read, named⟩ | ⟨⟨doubt, read⟩, _, unnamed⟩ | ⟨read, doubtless⟩
  · simp [read, named]
  · simp [read, unnamed]
  · have unnamed : ¬tagging.NamesTwoStreets := fun named => doubtless named.doubtful
    simp [read, unnamed]

theorem classify_eq_street_address_iff (tagging : Tagging) :
    classify tagging = .streetAddress ↔ ¬tagging.IsDoubtful := by
  rcases classify_cases tagging with ⟨read, named⟩ | ⟨⟨doubt, read⟩, doubtful, _⟩ | ⟨read, doubtless⟩
  · simp [read, named.doubtful]
  · simp [read, doubtful]
  · simp [read, doubtless]

theorem classify_eq_ambiguous_iff (tagging : Tagging) :
    (∃ doubt, classify tagging = .ambiguous doubt) ↔
      tagging.IsDoubtful ∧ ¬tagging.NamesTwoStreets := by
  rcases classify_cases tagging with ⟨read, named⟩ | ⟨⟨doubt, read⟩, doubtful, unnamed⟩ |
    ⟨read, doubtless⟩
  · simp [read, named]
  · simp [read, doubtful, unnamed]
  · simp [read, doubtless]

theorem Doubt.warning_ne_nil (doubt : Doubt) : doubt.warning ≠ [] := by
  have worded (start label rest : Text) (given : start ≠ []) : start ++ label ++ rest ≠ [] := by
    simp [given]
  cases doubt with
  | repeatedLabel label => exact worded _ label _ (by decide)
  | addressPartInIntersection label => exact worded _ label _ (by decide)
  | missingStreetName => exact List.cons_ne_nil _ _
  | secondStreetInAddress label => exact worded _ label _ (by decide)

theorem Interpretation.classification_of_tagging (tagging : Tagging) :
    (ofTagging tagging).classification = classify tagging := by
  rw [ofTagging]
  split
  case h_1 read => rw [read, classification]
  case h_2 read => rw [read, classification]
  case h_3 doubt read => rw [read, classification]

theorem Interpretation.components_eq_pair_iff (tagging : Tagging) (first second : Bag) :
    (ofTagging tagging).components = .pair first second ↔
      tagging.NamesTwoStreets ∧ Bag.ofTokens (splitStreets tagging.tokens).first = first ∧
        Bag.ofTokens (splitStreets tagging.tokens).second = second := by
  rw [ofTagging, ← classify_eq_intersection_iff]
  cases classify tagging with
  | streetAddress => simp [components]
  | intersection => simp [components]
  | ambiguous doubt => simp [components]

/-- The streams of two streets have no part of an address alone. -/
theorem Tagging.NamesTwoStreets.no_address_part {tagging : Tagging}
    (named : tagging.NamesTwoStreets) (component : Component)
    (addressOnly : component ∈ Component.addressOnly) :
    (∀ token ∈ (splitStreets tagging.tokens).first, token.component? ≠ some component) ∧
      ∀ token ∈ (splitStreets tagging.tokens).second, token.component? ≠ some component := by
  obtain ⟨tokens, rfl, _⟩ := id named
  exact split_streets_no_address_part tokens ((intersection_names_two_streets_iff tokens).1 named).1
    component addressOnly

/-- What is parsed from a tagging, whatever its labels and texts are. -/
structure Parsed.Reflects (parsed : Parsed) (tagging : Tagging) : Prop where
  pair_iff : (∃ first second, parsed.components = .pair first second) ↔ tagging.NamesTwoStreets
  single_iff : (∃ bag, parsed.components = .single bag) ↔ ¬tagging.NamesTwoStreets
  pair_streets : ∀ first second, parsed.components = .pair first second →
    parsed.classification = .intersection ∧
      ∀ component ∈ Component.addressOnly,
        first.get component = none ∧ second.get component = none
  single_ambiguous_iff : ∀ bag, parsed.components = .single bag →
    ((∃ doubt, parsed.classification = .ambiguous doubt ∧ doubt.warning ≠ []) ↔
      tagging.IsDoubtful)
  single_street_iff : ∀ bag, parsed.components = .single bag →
    (parsed.classification = .streetAddress ↔ ¬tagging.IsDoubtful)
  fields : ∀ bag ∈ parsed.components.bags,
    bag.toJson.HoldsOnly Component.all fun value => value.isAllBlank = false

theorem Parsed.reflects_of_tagging (input : Text) (tagging : Tagging) :
    (Parsed.mk input (.ofTagging tagging)).Reflects tagging := by
  have pairs (first second : Bag) :=
    Interpretation.components_eq_pair_iff tagging first second
  have classified : (Parsed.mk input (.ofTagging tagging)).classification = classify tagging :=
    Interpretation.classification_of_tagging tagging
  have unnamed (bag : Bag) (single : (Interpretation.ofTagging tagging).components = .single bag) :
      ¬tagging.NamesTwoStreets := by
    intro named
    have pair := (pairs _ _).2 ⟨named, rfl, rfl⟩
    rw [single] at pair
    cases pair
  have named : (∃ first second, (Parsed.mk input (.ofTagging tagging)).components =
      .pair first second) ↔ tagging.NamesTwoStreets := by
    simp [components, pairs]
  constructor
  case pair_iff => exact named
  case single_iff =>
    rw [← named]
    cases (Parsed.mk input (.ofTagging tagging)).components <;> simp
  case pair_streets =>
    intro first second given
    obtain ⟨named, rfl, rfl⟩ := (pairs first second).1 given
    refine ⟨classified.trans ((classify_eq_intersection_iff tagging).2 named), ?_⟩
    intro component addressOnly
    obtain ⟨inFirst, inSecond⟩ := named.no_address_part component addressOnly
    exact ⟨Joining.run_keeps .start _ component inFirst,
      Joining.run_keeps .start _ component inSecond⟩
  case single_ambiguous_iff =>
    intro bag single
    have ambiguous := classify_eq_ambiguous_iff tagging
    simpa [classified, Doubt.warning_ne_nil, unnamed bag single] using ambiguous
  case single_street_iff =>
    intro _ _
    rw [classified, classify_eq_street_address_iff]
  case fields =>
    intro bag member
    apply bag.to_json_holds_only
    intro component text held
    exact ⟨component.mem_all,
      Interpretation.of_tagging_holds_no_blank tagging bag member component text held⟩

theorem parse_of_text (tagger : Tagger) (text : Text) (given : cleanText text ≠ []) :
    (parse tagger text).value = ⟨text, .ofTagging (tagger (cleanText text)).value⟩ := by
  have notEmpty : (cleanText text).isEmpty = false := by simpa using given
  simp [parse, interpret, notEmpty]

theorem parse_of_no_text (tagger : Tagger) (text : Text) (empty : cleanText text = []) :
    (parse tagger text).value = ⟨text, .streetAddress .empty⟩ := by
  simp [parse, interpret, empty, Consulted.unasked]

/-- Whatever the tagger answers, a text that is not empty is parsed to what the answer names. -/
theorem parse_reflects_tagging (tagger : Tagger) (text : Text) (given : cleanText text ≠ []) :
    (parse tagger text).value.Reflects (tagger (cleanText text)).value := by
  rw [parse_of_text tagger text given]
  exact Parsed.reflects_of_tagging text _

def mainAndElm : Tagging :=
  .parsed .intersection
    [.ofComponent .streetName "Main".toList, .ofComponent .posttype " ".toList,
      ⟨"Landmark".toList, "Plaza".toList⟩, .ofComponent .city "Alton".toList, .separator "&".toList,
      ⟨Label.ofSecondStreet .streetName, "Elm".toList⟩, .ofComponent .streetName "Road".toList,
      .ofComponent .state "IL".toList]

theorem parse_main_and_elm :
    cleanText "Main & Elm".toList ≠ [] ∧
      (parse (.fixed mainAndElm) "Main & Elm".toList).value.Reflects mainAndElm ∧
      mainAndElm.NamesTwoStreets := by
  have given : cleanText "Main & Elm".toList ≠ [] := by decide +kernel
  have named : classify mainAndElm = .intersection := by decide +kernel
  exact ⟨given, parse_reflects_tagging (.fixed mainAndElm) "Main & Elm".toList given,
    (classify_eq_intersection_iff mainAndElm).1 named⟩

end PostalAddress
