import PostalAddress.Json.Basic
import PostalAddress.Text.Ascii
import PostalAddress.Text.Blank
import PostalAddress.Text.CodeUnit

/-!
Schemas of JSON values, made of the keywords that the requests need, and their reader. Reading checks
a value and changes it on the way: texts are trimmed, and fields that are empty then can be dropped.
One problem is told.

What is assumed of the validator is the order of its keywords. A text is trimmed before it is
measured. An object is checked for its required keys, then for the names of its keys, its additional
fields, and its properties, before empty fields are dropped. An array is counted before its items are
checked. Of several alternatives the first that fits counts, and if none does, the problem of the
first one is told; each reads the value as it was sent, which makes no difference if at most one
gets beyond the type.
-/

namespace PostalAddress

inductive Demand where
  | type (name : Text)
  | required (key : Text)
  | listedName
  | noAdditional
  | lengthAtMost (limit : Nat)
  | itemsAtMost (limit : Nat)
  | itemsAtLeast (limit : Nat)
  deriving DecidableEq, Repr

def Demand.message : Demand → Text
  | type name => "must be ".toList ++ name
  | required key => "must have required property '".toList ++ key ++ ['\'']
  | listedName => "must be equal to one of the allowed values".toList
  | noAdditional => "must NOT have additional properties".toList
  | lengthAtMost limit =>
      "must NOT have more than ".toList ++ decimalText limit ++ " characters".toList
  | itemsAtMost limit => "must NOT have more than ".toList ++ decimalText limit ++ " items".toList
  | itemsAtLeast limit => "must NOT have fewer than ".toList ++ decimalText limit ++ " items".toList

/-- A demand that is not met, and the keys that lead to the value. -/
structure SchemaProblem where
  path : List Text
  demand : Demand
  deriving DecidableEq, Repr

/-- The slash parts the keys of a path, so one within a key is escaped. -/
def pointer (path : List Text) : Text :=
  path.flatMap fun key => '/' :: key.flatMap fun letter =>
    if letter = '~' then ['~', '0'] else if letter = '/' then ['~', '1'] else [letter]

def SchemaProblem.message (problem : SchemaProblem) : Text :=
  pointer problem.path ++ ' ' :: problem.demand.message

/-- The keywords of an object that no further schema stands under. -/
structure ObjectRules where
  required : List Text
  names? : Option (List Text)
  dropsEmpty : Bool

inductive Schema where
  /-- A text, trimmed and then no longer than the limit. -/
  | text (nullable : Bool) (limit? : Option Nat)
  /-- An object. Without a schema for them, additional fields are not allowed. -/
  | object (rules : ObjectRules) (additional? : Option Schema) (properties : List (Text × Schema))
  | array (least most : Nat) (items : Schema)
  | anyOf (first second : Schema)

def readText (nullable : Bool) (limit? : Option Nat) (path : List Text) :
    Json → Except SchemaProblem Json
  | .string text =>
      match limit?.filter fun limit => limit < text.trim.pointCount with
      | some limit => .error ⟨path, .lengthAtMost limit⟩
      | none => .ok (.string text.trim)
  | .null => if nullable then .ok .null else .error ⟨path, .type "string".toList⟩
  | _ => .error ⟨path, .type "string".toList⟩

def Json.isBlank : Json → Bool
  | .null => true
  | .string text => text.trim.isEmpty
  | _ => false

namespace ObjectRules

/-- What is wrong with the keys of an object. -/
def problem? (rules : ObjectRules) (path : List Text) (fields : List (Text × Json)) :
    Option SchemaProblem :=
  match rules.required.find? fun key => (fields.lookup key).isNone with
  | some key => some ⟨path, .required key⟩
  | none =>
      if rules.names?.any fun names => fields.any fun field => !names.contains field.1 then
        some ⟨path, .listedName⟩
      else none

/-- What a field holds is what stands under its key. -/
def kept (rules : ObjectRules) (fields : List (Text × Json)) : List (Text × Json) :=
  if rules.dropsEmpty then
    fields.filter fun field => ((fields.lookup field.1).filter fun value => !value.isBlank).isSome
  else fields

end ObjectRules

namespace Schema

mutual

def read : Schema → List Text → Json → Except SchemaProblem Json
  | text nullable limit?, path, value => readText nullable limit? path value
  | object rules additional? properties, path, .object fields =>
      match rules.problem? path fields with
      | some problem => .error problem
      | none =>
          (readAdditional additional? path (properties.map Prod.fst) fields).bind fun checked =>
            (readProperties properties path checked).map fun read => .object (rules.kept read)
  | object .., path, _ => .error ⟨path, .type "object".toList⟩
  | array least most items, path, .array values =>
      if most < values.length then .error ⟨path, .itemsAtMost most⟩
      else if values.length < least then .error ⟨path, .itemsAtLeast least⟩
      else
        (values.zipIdx.mapM fun (value, index) =>
          items.read (path ++ [decimalText index]) value).map .array
  | array .., path, _ => .error ⟨path, .type "array".toList⟩
  | anyOf first second, path, value =>
      match first.read path value with
      | .ok read => .ok read
      | .error problem => (second.read path value).mapError fun _ => problem

def readAdditional : Option Schema → List Text → List Text → List (Text × Json) →
    Except SchemaProblem (List (Text × Json))
  | none, path, known, fields =>
      if fields.any fun field => !known.contains field.1 then .error ⟨path, .noAdditional⟩
      else .ok fields
  | some schema, path, known, fields =>
      fields.mapM fun field =>
        if known.contains field.1 then .ok field
        else (schema.read (path ++ [field.1]) field.2).map fun value => (field.1, value)

def readProperties : List (Text × Schema) → List Text → List (Text × Json) →
    Except SchemaProblem (List (Text × Json))
  | [], _, fields => .ok fields
  | (key, schema) :: properties, path, fields =>
      match fields.lookup key with
      | none => readProperties properties path fields
      | some value =>
          (schema.read (path ++ [key]) value).bind fun read =>
            readProperties properties path (Json.put key read fields)

end

end Schema

end PostalAddress
