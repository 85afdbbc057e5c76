import PostalAddress.Parsed
import PostalAddress.Service.ReportedError
import PostalAddress.Service.Request

/-!
The two operations of the service on a request body. Components, if any has a value, are used
before an address. The tagger is asked only for a request that is answered.
-/

namespace PostalAddress

inductive Refusal where
  | invalid (problem : SchemaProblem)
  | missingAddress
  | missingInput
  | missingKey
  | unknownKey
  deriving DecidableEq, Repr

def requestName : Text := "request".toList

def invalidValueError (name : Text) (problem : SchemaProblem) : ReportedError :=
  .new .invalidValue ((if name.isEmpty then requestName else name) ++ problem.message) []

def Refusal.error : Refusal → ReportedError
  | invalid problem => invalidValueError requestName problem
  | missingAddress => .new .badRequest "An address is required".toList []
  | missingInput => .new .badRequest "Either an address or components are required".toList []
  | missingKey => .new .authentication "An API key is required (x-api-key header)".toList []
  | unknownKey => .new .authorization "Invalid API key".toList []

def answerParse (tagger : Tagger) (body : Json) : Except Refusal (Consulted Parsed) :=
  match ParseRequest.ofJson body with
  | .error problem => .error (.invalid problem)
  | .ok request =>
      if request.address.isEmpty then .error .missingAddress
      else .ok (parse tagger request.address)

def StandardizeRequest.answer (tagger : Tagger) (request : StandardizeRequest) :
    Except Refusal (Consulted StandardAddress) :=
  match request.components.filter fun components => !components.isEmpty with
  | some components => .ok (.unasked (standardize components))
  | none =>
      match request.address.filter fun address => !address.isEmpty with
      | some address => .ok (standardizeText tagger address)
      | none => .error .missingInput

def answerStandardize (tagger : Tagger) (body : Json) :
    Except Refusal (Consulted StandardAddress) :=
  match StandardizeRequest.ofJson body with
  | .error problem => .error (.invalid problem)
  | .ok request => request.answer tagger

/-- Only an ambiguous parse has a warning. -/
def Parsed.toJson (parsed : Parsed) : Json :=
  .ofFields
    ([("input", .string parsed.input), ("components", parsed.components.toJson),
        ("type", .string parsed.classification.name)] ++
      match parsed.classification with
      | .ambiguous doubt => [("warning", .string doubt.warning)]
      | _ => [])

end PostalAddress
