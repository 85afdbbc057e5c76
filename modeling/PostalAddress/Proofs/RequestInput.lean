import PostalAddress.Proofs.ValidatedRequests

/-!
What a request gives to work on. A parse request needs an address that is not blank, and for a
standardize request components with a text will do as well. With either there is an answer, whatever
the text is.
-/

namespace PostalAddress

namespace Json

def GivesAddress (body : Json) : Prop :=
  ∃ fields text, body = .object fields ∧ fields.lookup addressKey = some (.string text) ∧
    text.isAllBlank = false

def GivesComponents (body : Json) : Prop :=
  ∃ fields components, body = .object fields ∧ fields.lookup componentsKey = some components ∧
    components.GivesText

end Json

theorem ParseRequest.address_given_iff (body : Json) (request : ParseRequest)
    (read : ofJson body = .ok request) : request.address ≠ [] ↔ body.GivesAddress := by
  rcases (of_json_trims body request read).1 with ⟨fields, text, same, listed, trimmed⟩
  rw [trimmed, ne_eq, Text.trim_eq_nil_iff, Bool.not_eq_true]
  constructor
  · intro solid
    exact ⟨fields, text, same, listed, solid⟩
  · intro given
    rcases given with ⟨otherFields, otherText, otherSame, otherListed, solid⟩
    rw [same] at otherSame
    cases otherSame
    rw [listed] at otherListed
    cases otherListed
    exact solid

namespace StandardizeRequest

variable (body : Json) (request : StandardizeRequest)

theorem address_given_iff (read : ofJson body = .ok request) :
    (∃ address, request.address = some address ∧ address ≠ []) ↔ body.GivesAddress := by
  rcases (of_json_trims body request read).1.sent with ⟨fields, same, address, _⟩
  rw [address]
  simp only [Option.map_eq_some_iff, Option.bind_eq_some_iff]
  constructor
  · intro given
    rcases given with ⟨_, ⟨text, ⟨value, listed, isText⟩, trimmed⟩, solid⟩
    cases value <;> cases isText
    rw [← trimmed, ne_eq, Text.trim_eq_nil_iff, Bool.not_eq_true] at solid
    exact ⟨fields, text, same, listed, solid⟩
  · intro given
    rcases given with ⟨otherFields, text, otherSame, listed, solid⟩
    rw [same] at otherSame
    cases otherSame
    refine ⟨text.trim, ⟨text, ⟨.string text, listed, rfl⟩, rfl⟩, ?_⟩
    rw [ne_eq, Text.trim_eq_nil_iff, Bool.not_eq_true]
    exact solid

theorem read_components_given_iff (sent : Option Json) (components : Option Components)
    (read : readField readComponents sent = .ok components) :
    (∃ given, components = some given ∧ given.isEmpty = false) ↔
      ∃ value, sent = some value ∧ value.GivesText := by
  rcases read_field_cases readComponents sent components read with
    ⟨same, none⟩ | ⟨value, given, same, valueRead, kept⟩
  · simp [same, none]
  · rcases read_components_eq_ok value given valueRead with ⟨_, _, _, givenIff⟩
    simp only [same, kept, Option.some.injEq, exists_eq_left', givenIff]

theorem components_given_iff (read : ofJson body = .ok request) :
    (∃ components, request.components = some components ∧ components.isEmpty = false) ↔
      body.GivesComponents := by
  rcases (of_json_trims body request read).1.sent with ⟨fields, same, _⟩
  rw [same] at read ⊢
  have reads := (of_json_eq_ok_iff fields request).1 read
  rw [read_components_given_iff _ _ reads.components]
  simp only [Json.GivesComponents, Json.object.injEq, exists_and_left, exists_eq_left']

def GivesInput : Prop :=
  (∃ address, request.address = some address ∧ address ≠ []) ∨
    ∃ components, request.components = some components ∧ components.isEmpty = false

/-- Any input is enough for an answer. -/
theorem answer_cases (tagger : Tagger) :
    (∃ answered, request.answer tagger = .ok answered ∧ request.GivesInput) ∨
      request.answer tagger = .error .missingInput ∧ ¬request.GivesInput := by
  cases components : request.components.filter fun components => !components.isEmpty with
  | some given =>
      rcases Option.filter_eq_some_iff.1 components with ⟨listed, present⟩
      refine .inl ⟨.unasked (standardize given), ?_, .inr ⟨given, listed, ?_⟩⟩
      · rw [answer, components]
      · simpa using present
  | none =>
      cases address : request.address.filter fun address => !address.isEmpty with
      | some given =>
          rcases Option.filter_eq_some_iff.1 address with ⟨listed, present⟩
          refine .inl ⟨standardizeText tagger given, ?_, .inl ⟨given, listed, ?_⟩⟩
          · rw [answer, components]
            simp only [address]
          · simpa using present
      | none =>
          refine .inr ⟨?_, ?_⟩
          · rw [answer, components]
            simp only [address]
          · intro gives
            rcases gives with ⟨given, listed, present⟩ | ⟨given, listed, present⟩
            · rw [listed, Option.filter_some_eq_none] at address
              simp [present] at address
            · rw [listed, Option.filter_some_eq_none, present] at components
              exact components rfl

end StandardizeRequest

end PostalAddress
