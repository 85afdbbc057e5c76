import PostalAddress.Proofs.RequestSchema

/-!
Both kinds of requests are read as their schema says. A request is accepted exactly if it keeps the
schema; what is read from it is trimmed and without blank components, and is read from its own JSON
form unchanged; any other request is told the first problem in the order of the checks.
-/

namespace PostalAddress

open Check (Decide NoneArises FirstFailure)

theorem Bag.trimmed_trimmed (bag : Bag) : bag.trimmed.trimmed = bag.trimmed := by
  apply congrArg ofValues
  funext component
  rw [value_trimmed, Text.trim_trim]

theorem Components.trimmed_trimmed (components : Components) :
    components.trimmed.trimmed = components.trimmed := by
  cases components <;> simp only [trimmed, Bag.trimmed_trimmed]

theorem Bag.trimmed_text (bag : Bag) (component : Component) (text : Text)
    (held : bag.trimmed.get component = some text) :
    text.isAllBlank = false ∧ text.trim = text := by
  rcases (get_of_values_eq_some_iff _ component text).1 held with ⟨same, given⟩
  rw [← same] at given ⊢
  exact ⟨Text.trim_solid _ given, Text.trim_trim _⟩

/-- An address that is read is read again as it is. -/
theorem read_address_again (value : Json) (address : Text)
    (read : readAddress value = .ok address) :
    value.text?.map Text.trim = some address ∧ readAddress (.string address) = .ok address := by
  cases value with
  | string text =>
      rcases (read_address_eq_ok_iff text address).1 read with ⟨short, same⟩
      rw [← same, read_address_eq_ok_iff, Text.trim_trim]
      exact ⟨rfl, short, rfl⟩
  | _ => cases read

/-- How a kind of request is read and written, by its schema, by what its checks tell, and by what
is left of a value that is accepted. -/
structure ReadsSchema {Request : Type} (read : Json → Except SchemaProblem Request)
    (write : Request → Json) (schema : Json → Prop) (checks : Json → List (Check SchemaProblem))
    (trimmed : Json → Request → Prop) : Prop where
  accepts : ∀ value, (∃ request, read value = .ok request) ↔ schema value
  trims : ∀ value request, read value = .ok request → trimmed value request
  again : ∀ value request, read value = .ok request → read (write request) = .ok request
  rejects : ∀ name value error,
    (read value).mapError (invalidValueError name) = .error error ↔
      ∃ problem, FirstFailure (checks value) problem ∧ error = invalidValueError name problem

theorem reads_schema_of_decided {Request : Type} {read : Json → Except SchemaProblem Request}
    {write : Request → Json} {schema : Json → Prop} {checks : Json → List (Check SchemaProblem)}
    {trimmed : Json → Request → Prop}
    (decided : ∀ value, Decide (checks value) (read value))
    (pass : ∀ value, NoneArises (checks value) ↔ schema value)
    (kept : ∀ value request, read value = .ok request →
      trimmed value request ∧ read (write request) = .ok request) :
    ReadsSchema read write schema checks trimmed := by
  constructor
  case accepts =>
    intro value
    exact (decided value).ok_iff.trans (pass value)
  case trims =>
    intro value request accepted
    exact (kept value request accepted).1
  case again =>
    intro value request accepted
    exact (kept value request accepted).2
  case rejects =>
    intro name value error
    exact (decided value).map_error_iff (invalidValueError name) error

/-- The address of the value without the blanks around it. -/
def ParseRequest.IsTrimmed (value : Json) (request : ParseRequest) : Prop :=
  ∃ fields text, value = .object fields ∧ fields.lookup addressKey = some (.string text) ∧
    request.address = text.trim

/-- What is sent, without the blanks around it, and without components that are blank then. -/
structure StandardizeRequest.IsTrimmed (value : Json) (request : StandardizeRequest) : Prop where
  sent : ∃ fields, value = .object fields ∧
    request.address = ((fields.lookup addressKey).bind Json.text?).map Text.trim ∧
    request.components =
      ((fields.lookup componentsKey).bind Components.ofJson?).map Components.trimmed
  texts : ∀ components, request.components = some components →
    ∀ bag ∈ components.bags, ∀ component text, bag.get component = some text →
      text.isAllBlank = false ∧ text.trim = text

namespace ParseRequest

theorem of_json_trims (value : Json) (request : ParseRequest) (read : ofJson value = .ok request) :
    IsTrimmed value request ∧ ofJson request.toJson = .ok request := by
  have accepted := (of_json_decided value).ok_iff.1 ⟨request, read⟩
  rcases (parse_checks_pass_iff value).1 accepted with ⟨fields, same, known, address, listed, _⟩
  have noOther : (fields.any fun field => field.1 ≠ addressKey) = false := by
    simpa [List.any_eq_false] using known
  rw [same, of_json_object] at read
  simp only [listed, noOther] at read
  cases addressRead : readAddress address with
  | error problem =>
      rw [addressRead] at read
      cases read
  | ok text =>
      rw [addressRead] at read
      cases read
      rcases read_address_again address text addressRead with ⟨trimmed, again⟩
      rcases Option.map_eq_some_iff.1 trimmed with ⟨sent, isText, trimmedText⟩
      constructor
      · refine ⟨fields, sent, same, ?_, trimmedText.symm⟩
        cases address <;> cases isText
        exact listed
      · rw [of_json_to_json, again]
        rfl

end ParseRequest

namespace StandardizeRequest

theorem read_field_cases {Value : Type} (read : Json → Except SchemaProblem Value)
    (sent : Option Json) (field : Option Value) (found : readField read sent = .ok field) :
    sent = none ∧ field = none ∨
      ∃ value kept, sent = some value ∧ read value = .ok kept ∧ field = some kept := by
  cases sent with
  | none =>
      cases found
      exact .inl ⟨rfl, rfl⟩
  | some value =>
      cases valueRead : read value with
      | error problem =>
          rw [readField, valueRead] at found
          cases found
      | ok kept =>
          rw [readField, valueRead] at found
          cases found
          exact .inr ⟨value, kept, rfl, valueRead, rfl⟩

theorem read_address_field (sent : Option Json) (address : Option Text)
    (read : readField readAddress sent = .ok address) :
    address = (sent.bind Json.text?).map Text.trim ∧
      readField readAddress (address.map .string) = .ok address := by
  rcases read_field_cases readAddress sent address read with
    ⟨same, none⟩ | ⟨value, text, same, valueRead, kept⟩
  · rw [same, none]
    exact ⟨rfl, rfl⟩
  · rcases read_address_again value text valueRead with ⟨trimmed, again⟩
    rw [same, kept, Option.bind_some, trimmed, Option.map_some, readField, again]
    exact ⟨rfl, rfl⟩

theorem read_components_field (sent : Option Json) (components : Option Components)
    (read : readField readComponents sent = .ok components) :
    components = (sent.bind Components.ofJson?).map Components.trimmed ∧
      components.map Components.trimmed = components := by
  rcases read_field_cases readComponents sent components read with
    ⟨same, none⟩ | ⟨value, validated, same, valueRead, kept⟩
  · rw [same, none]
    exact ⟨rfl, rfl⟩
  · rcases read_components_eq_ok value validated valueRead with ⟨bags, unchecked, trimmed, _⟩
    rw [same, kept, Option.bind_some, unchecked, Option.map_some, Option.map_some, trimmed,
      bags.trimmed_trimmed]
    exact ⟨rfl, rfl⟩

theorem of_json_trims (value : Json) (request : StandardizeRequest)
    (read : ofJson value = .ok request) :
    IsTrimmed value request ∧ ofJson request.toJson = .ok request := by
  have accepted := (of_json_decided value).ok_iff.1 ⟨request, read⟩
  rcases (standardize_checks_pass_iff value).1 accepted with ⟨fields, same, _⟩
  rw [same] at read
  have reads := (of_json_eq_ok_iff fields request).1 read
  rcases read_address_field _ _ reads.address with ⟨addressTrimmed, addressAgain⟩
  rcases read_components_field _ _ reads.components with ⟨componentsTrimmed, componentsAgain⟩
  constructor
  · constructor
    case sent => exact ⟨fields, same, addressTrimmed, componentsTrimmed⟩
    case texts =>
      intro components given bag member component text held
      rw [given, Option.map_some, Option.some.injEq] at componentsAgain
      rw [← componentsAgain] at member
      cases components with
      | single sent =>
          rw [List.mem_singleton.1 member] at held
          exact sent.trimmed_text component text held
      | pair first second =>
          rcases List.mem_pair.1 member with same | same
          · rw [same] at held
            exact first.trimmed_text component text held
          · rw [same] at held
            exact second.trimmed_text component text held
  · rw [of_json_to_json, addressAgain, componentsAgain]
    rfl

end StandardizeRequest

/-- Either kind of request is read as its schema and its checks say. -/
theorem requests_read_by_schema :
    ReadsSchema ParseRequest.ofJson ParseRequest.toJson Json.IsParseRequest parseChecks
        ParseRequest.IsTrimmed ∧
      ReadsSchema StandardizeRequest.ofJson StandardizeRequest.toJson Json.IsStandardizeRequest
        standardizeChecks StandardizeRequest.IsTrimmed := by
  constructor
  · apply reads_schema_of_decided
    · exact ParseRequest.of_json_decided
    · exact parse_checks_pass_iff
    · exact ParseRequest.of_json_trims
  · apply reads_schema_of_decided
    · exact StandardizeRequest.of_json_decided
    · exact standardize_checks_pass_iff
    · exact StandardizeRequest.of_json_trims

end PostalAddress
