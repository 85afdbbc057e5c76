import PostalAddress.Text.Ascii
import PostalAddress.Text.Blank

/-!
Settings of the service, read from environment variables. A variable that is empty counts as
missing, but for the parts of the instance's name.
-/

namespace PostalAddress

abbrev Environment := Text → Option Text

namespace Environment

def value (environment : Environment) (name : String) : Text :=
  (environment name.toList).getD []

def has (environment : Environment) (name : String) : Bool := !(environment.value name).isEmpty

theorem has_iff (environment : Environment) (name : String) :
    environment.has name = true ↔ environment.value name ≠ [] := by
  rw [has, Bool.not_eq_true', List.isEmpty_eq_false_iff]

end Environment

inductive SettingError where
  | badPort (text : Text)
  | missingKeys
  deriving DecidableEq, Repr

def SettingError.message : SettingError → Text
  | badPort text => "PORT must be a valid port number (not \"".toList ++ text ++ "\")".toList
  | missingKeys =>
      "You must set API_KEYS to a comma-separated list of keys in production".toList

/-- The number that a text begins with, behind blanks and a sign. What follows it does not count. -/
def leadingInteger? (text : Text) : Option Int :=
  let (negative, unsigned) := Text.readSign (Text.skipBlanks text)
  (Text.readDigits? unsigned).map fun (digits, _) =>
    if negative then -(decimalValue digits : Int) else decimalValue digits

namespace Environment

def tcpPort (environment : Environment) : Except SettingError Nat :=
  if environment.has "PORT" then
    match leadingInteger? (environment.value "PORT") with
    | some number =>
        if 0 ≤ number ∧ number ≤ 65535 then .ok number.toNat
        else .error (.badPort (environment.value "PORT"))
    | none => .error (.badPort (environment.value "PORT"))
  else .ok 3000

def keysOfList (list : Text) : List Text :=
  ((list.splitOn ',').map Text.trim).filter fun key => !key.isEmpty

/-- Only production insists on keys. -/
def apiKeys (environment : Environment) : Except SettingError (List Text) :=
  if environment.has "API_KEYS" then .ok (keysOfList (environment.value "API_KEYS"))
  else if environment.value "NODE_ENV" = "production".toList then .error .missingKeys
  else .ok ["dev-key".toList]

def platform (environment : Environment) : Text :=
  if environment.has "RENDER" then "render".toList
  else if environment.has "ECS_CONTAINER_METADATA_URI" ||
      environment.has "ECS_CONTAINER_METADATA_URI_V4" then "ecs".toList
  else []

/-- A part of the name that is not set at all has a word in its place. -/
def instanceName (machineName : Text) (environment : Environment) : Text :=
  let part : String → Text := fun name => (environment name.toList).getD "undefined".toList
  if environment.has "RENDER" then part "RENDER_SERVICE_NAME" ++ '-' :: part "RENDER_INSTANCE_ID"
  else machineName

end Environment

inductive Stage where
  | development
  | production
  | other
  deriving DecidableEq, Repr

def Environment.stage (environment : Environment) : Stage :=
  let name := environment.value "NODE_ENV"
  if name.isEmpty || name = "development".toList then .development
  else if name = "production".toList then .production
  else .other

end PostalAddress
