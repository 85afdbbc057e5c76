import PostalAddress.Json.Basic

/-!
Errors that a client may see. The class of an error fixes its status and, but for the general
class, its code; details of the error go to the client beside its message and code.
-/

namespace PostalAddress

inductive ErrorClass where
  | general
  | badRequest
  | authentication
  | authorization
  | invalidValue
  deriving DecidableEq, Repr

namespace ErrorClass

def status : ErrorClass → Nat
  | general => 500
  | badRequest => 400
  | authentication => 401
  | authorization => 403
  | invalidValue => 422

def code? : ErrorClass → Option Text
  | general => none
  | badRequest => some "bad_request".toList
  | authentication => some "not_authenticated".toList
  | authorization => some "not_authorized".toList
  | invalidValue => some "value_error".toList

end ErrorClass

structure ReportedError where
  errorClass : ErrorClass
  message : Text
  code : Option Json
  extra : List (Text × Json)

namespace ReportedError

def codeKey : Text := "code".toList

/-- The code among the details counts for the general class alone. -/
def new (errorClass : ErrorClass) (message : Text) (details : List (Text × Json)) : ReportedError :=
  ⟨errorClass, message,
    match errorClass.code? with
    | some code => some (.string code)
    | none => (details.lookup codeKey).filter Json.isGiven,
    details.filter fun detail => detail.1 ≠ codeKey⟩

/-- A detail cannot take the place of the message or the code. -/
def toJson (error : ReportedError) : Json :=
  let told := Json.put "message".toList (.string error.message) error.extra
  .object (match error.code with
    | some code => Json.put codeKey code told
    | none => told)

end ReportedError

end PostalAddress
