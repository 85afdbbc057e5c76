import PostalAddress.Proofs.BlankValues
import PostalAddress.Proofs.RequestBodies

/-!
The two ways to have an address standardized agree: sending the text, and sending the components
that parsing the text answers. The components are accepted as they are, since none of them is blank
and each has a known name, and the tagger is not asked again.
-/

namespace PostalAddress

theorem Components.is_empty_trimmed (components : Components)
    (noBlank : ∀ bag ∈ components.bags, bag.HoldsNoBlank) :
    components.trimmed.isEmpty = components.isEmpty := by
  cases components with
  | single bag =>
      have kept := (noBlank bag (by simp [bags])).is_empty_trimmed
      simp only [isEmpty, trimmed, bags, List.all_cons, List.all_nil, kept]
  | pair first second =>
      have firstKept := (noBlank first (by simp [bags])).is_empty_trimmed
      have secondKept := (noBlank second (by simp [bags])).is_empty_trimmed
      simp only [isEmpty, trimmed, bags, List.all_cons, List.all_nil, firstKept, secondKept]

theorem answer_standardize_components (tagger : Tagger) (components : Components)
    (given : components.trimmed.isEmpty = false) :
    answerStandardize tagger (StandardizeRequest.toJson ⟨none, some components⟩) =
      .ok (.unasked (standardize components)) := by
  have read : StandardizeRequest.ofJson (StandardizeRequest.toJson ⟨none, some components⟩) =
      .ok ⟨none, some components.trimmed⟩ :=
    StandardizeRequest.of_json_to_json _
  rw [answerStandardize, read, ← components.standardize_trimmed]
  exact StandardizeRequest.answer_components tagger none _ given

theorem answer_parse_eq_ok_iff (tagger : Tagger) (address : Text) (parsed : Consulted Parsed) :
    answerParse tagger (ParseRequest.toJson ⟨address⟩) = .ok parsed ↔
      readAddress (.string address) = .ok address.trim ∧ address.trim ≠ [] ∧
        parse tagger address.trim = parsed := by
  rw [answerParse, ParseRequest.of_json_to_json]
  cases read : readAddress (.string address) with
  | error problem => simp [Except.map]
  | ok trimmed =>
      have same : address.trim = trimmed := ((read_address_eq_ok_iff address trimmed).1 read).2
      subst same
      simp [Except.map, ite_eq_iff]

theorem answer_standardize_address (tagger : Tagger) (address : Text)
    (read : readAddress (.string address) = .ok address.trim) (given : address.trim ≠ []) :
    answerStandardize tagger (StandardizeRequest.toJson ⟨some address, none⟩) =
      .ok (standardizeText tagger address.trim) := by
  have request : StandardizeRequest.ofJson (StandardizeRequest.toJson ⟨some address, none⟩) =
      .ok ⟨some address.trim, none⟩ := by
    rw [StandardizeRequest.of_json_to_json, Option.map_some, readField, read]
    rfl
  rw [answerStandardize, request]
  exact StandardizeRequest.answer_address tagger address.trim given

theorem Parsed.body_components (parsed : Parsed) :
    ∃ body, parsed.toJson = .object body ∧
      body.lookup componentsKey = some parsed.components.toJson :=
  ⟨_, rfl, rfl⟩

/-- The components in the body of a parse answer, sent back, give the standard address that the
text itself gives. -/
theorem standardize_parsed_components (tagger : Tagger) (address : Text)
    (parsed : Consulted Parsed)
    (answered : answerParse tagger (.object [(addressKey, .string address)]) = .ok parsed)
    (given : parsed.value.components.isEmpty = false) :
    ∃ body components fromText,
      parsed.value.toJson = .object body ∧ body.lookup componentsKey = some components ∧
      answerStandardize tagger (.object [(addressKey, .string address)]) = .ok fromText ∧
      answerStandardize tagger (.object [(componentsKey, components)]) =
        .ok (.unasked fromText.value) := by
  obtain ⟨read, notEmpty, rfl⟩ := (answer_parse_eq_ok_iff tagger address parsed).1 answered
  have noBlank := interpret_holds_no_blank tagger address.trim
  have kept := Components.is_empty_trimmed _ noBlank
  obtain ⟨body, written, sent⟩ := Parsed.body_components (parse tagger address.trim).value
  refine ⟨body, _, standardizeText tagger address.trim, written, sent, ?_, ?_⟩
  · exact answer_standardize_address tagger address read notEmpty
  · exact answer_standardize_components tagger _ (kept.trans given)

theorem standardize_parsed_main_street :
    let located : Locator := fun _ => some (.ofFields
      [("number".toList, .string "12".toList), ("street".toList, .string "Main".toList),
        ("type".toList, .string "St".toList), ("city".toList, .string "Springfield".toList),
        ("state".toList, .string "IL".toList)])
    let address := "12 Main St, Springfield, IL".toList
    ∃ parsed, answerParse (.locating located) (.object [(addressKey, .string address)]) =
        .ok parsed ∧
      parsed.value.components.isEmpty = false ∧
      ∃ body components fromText,
        parsed.value.toJson = .object body ∧ body.lookup componentsKey = some components ∧
        answerStandardize (.locating located) (.object [(addressKey, .string address)]) =
          .ok fromText ∧
        answerStandardize (.locating located) (.object [(componentsKey, components)]) =
          .ok (.unasked fromText.value) :=
  ⟨_, rfl, by decide +kernel, standardize_parsed_components _ _ _ rfl (by decide +kernel)⟩

end PostalAddress
