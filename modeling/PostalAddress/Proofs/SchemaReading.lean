import PostalAddress.Proofs.SolidText
import PostalAddress.Service.Request

/-!
What the schemas of requests come to, keyword by keyword. An address is a text that is short enough
without the blanks around it. A bag has known names, with texts or nulls under them, and what is read
from it is the bag of the trimmed values that are not blank. Two bags are read as each of them is,
but their problems are not told.
-/

namespace PostalAddress

namespace SchemaProblem

def notAnObject : SchemaProblem := ⟨[], .type "object".toList⟩

def missingAddress : SchemaProblem := ⟨[], .required addressKey⟩

def unknownProperty : SchemaProblem := ⟨[], .noAdditional⟩

def addressNotText : SchemaProblem := ⟨[addressKey], .type "string".toList⟩

def addressTooLong : SchemaProblem := ⟨[addressKey], .lengthAtMost addressLimit⟩

def componentsNotAnObject : SchemaProblem := ⟨[componentsKey], .type "object".toList⟩

def unknownComponent : SchemaProblem := ⟨[componentsKey], .listedName⟩

def componentNotText (key : Text) : SchemaProblem := ⟨[componentsKey, key], .type "string".toList⟩

end SchemaProblem

def readAddress (value : Json) : Except SchemaProblem Text :=
  (Schema.address.read [addressKey] value).map fun read => read.text?.getD []

def readBag (value : Json) : Except SchemaProblem Bag :=
  (Schema.bag.read [componentsKey] value).map Bag.ofJson

def readComponents (value : Json) : Except SchemaProblem Components :=
  (Schema.components.read [componentsKey] value).map Components.ofJson

def readField {Value : Type} (read : Json → Except SchemaProblem Value) :
    Option Json → Except SchemaProblem (Option Value)
  | none => .ok none
  | some value => (read value).map some

namespace Json

def isTextOrNull : Json → Bool
  | .string _ | .null => true
  | _ => false

def trimText : Json → Json
  | .string text => .string text.trim
  | value => value

/-- The fields with trimmed texts, without those that hold nothing then. -/
def trimFields (fields : List (Text × Json)) : List (Text × Json) :=
  ObjectRules.kept ⟨[], none, true⟩ (fields.map fun field => (field.1, field.2.trimText))

theorem lookup_map_values (change : Json → Json) (fields : List (Text × Json)) (key : Text) :
    (fields.map fun field => (field.1, change field.2)).lookup key =
      (fields.lookup key).map change := by
  induction fields with
  | nil => rfl
  | cons field rest induction =>
      rw [List.map_cons, List.lookup_cons, List.lookup_cons]
      split
      · rfl
      · exact induction

theorem lookup_trim_fields (fields : List (Text × Json)) (key : Text) :
    (trimFields fields).lookup key =
      ((fields.lookup key).map trimText).filter fun value => !value.isBlank := by
  let given (key : Text) : Bool :=
    (((fields.lookup key).map trimText).filter fun value => !value.isBlank).isSome
  have own : trimFields fields =
      (fields.map fun field => (field.1, field.2.trimText)).filter fun field => given field.1 := by
    simp only [trimFields, ObjectRules.kept, if_pos, lookup_map_values, given]
  have kept (found : Option Json) :
      (if (found.filter fun value => !value.isBlank).isSome then found else none) =
        found.filter fun value => !value.isBlank := by
    cases found with
    | none => rfl
    | some value => cases blank : value.isBlank <;> simp [Option.filter, blank]
  rw [own, lookup_filter_keys, lookup_map_values]
  exact kept _

end Json

theorem Bag.of_trim_fields (fields : List (Text × Json)) :
    ofFields (Json.trimFields fields) = (ofFields fields).trimmed := by
  apply Bag.ext
  funext component
  rw [trimmed, get_of_values, value]
  simp only [ofFields, Json.lookup_trim_fields]
  cases fields.lookup component.name with
  | none => rfl
  | some value =>
      cases value with
      | string text =>
          have again : text.trim.trim = text.trim := text.trim_trim
          simp only [Option.map_some, Json.trimText, Option.filter_some, Json.isBlank, again,
            Option.bind_some, Json.text?, Option.getD_some, Text.present?]
          cases text.trim <;> rfl
      | null => rfl
      | _ => rfl

theorem read_address_string (text : Text) :
    readAddress (.string text) =
      if text.trim.pointCount ≤ addressLimit then .ok text.trim else .error .addressTooLong := by
  rw [readAddress, Schema.address, Schema.read, readText, Option.filter_some]
  by_cases short : text.trim.pointCount ≤ addressLimit
  case pos =>
    rw [if_neg (by simpa using short), if_pos short]
    rfl
  case neg =>
    rw [if_pos (by simpa using short), if_neg short]
    rfl

/-- What an address is read as is a text. -/
theorem Schema.address_read (value : Json) :
    address.read [addressKey] value = (readAddress value).map .string := by
  cases value with
  | string text =>
      rw [readAddress, Schema.address, Schema.read, readText]
      split <;> rfl
  | _ => rfl

theorem Component.names_contain (key : Text) :
    (all.map name).contains key = (ofName? key).isSome := by
  rw [Bool.eq_iff_iff, List.contains_iff_mem, List.mem_map, ofName?, List.find?_isSome]
  simp only [decide_eq_true_eq]

namespace Schema

/-- The fields of a bag are read in their order, up to the first that is no text and not null. -/
theorem read_components_fields (path : List Text) (fields : List (Text × Json)) :
    readAdditional (some (.text true none)) path [] fields =
      match fields.find? fun field => !field.2.isTextOrNull with
      | some field => .error ⟨path ++ [field.1], .type "string".toList⟩
      | none => .ok (fields.map fun field => (field.1, field.2.trimText)) := by
  rw [readAdditional]
  induction fields with
  | nil => rfl
  | cons field rest induction =>
      rcases field with ⟨name, value⟩
      rw [List.mapM_cons, induction]
      cases value with
      | null | string =>
          rw [List.find?_cons_of_neg (by simp [Json.isTextOrNull])]
          cases rest.find? fun field => !field.2.isTextOrNull <;> rfl
      | _ => rfl

theorem read_bag (path : List Text) (fields : List (Text × Json)) :
    bag.read path (.object fields) =
      if fields.any fun field => (Component.ofName? field.1).isNone then
        .error ⟨path, .listedName⟩
      else
        match fields.find? fun field => !field.2.isTextOrNull with
        | some field => .error ⟨path ++ [field.1], .type "string".toList⟩
        | none => .ok (.object (Json.trimFields fields)) := by
  rw [bag, read, ObjectRules.problem?]
  simp only [List.find?_nil, Option.any_some, Component.names_contain, Option.not_isSome]
  cases fields.any fun field => (Component.ofName? field.1).isNone with
  | true => rfl
  | false =>
      simp only [Bool.false_eq_true, if_false, List.map_nil, read_components_fields]
      cases fields.find? fun field => !field.2.isTextOrNull <;> rfl

end Schema

theorem read_bag_object (fields : List (Text × Json)) :
    readBag (.object fields) =
      if fields.any fun field => (Component.ofName? field.1).isNone then .error .unknownComponent
      else match fields.find? fun field => !field.2.isTextOrNull with
        | some field => .error (.componentNotText field.1)
        | none => .ok (Bag.ofFields fields).trimmed := by
  rw [readBag, Schema.read_bag]
  split
  case isTrue => rfl
  case isFalse =>
    cases fields.find? fun field => !field.2.isTextOrNull with
    | some field => rfl
    | none => exact congrArg Except.ok (Bag.of_trim_fields fields)

/-- Where a bag stands shows in its problem alone. -/
theorem Schema.bag_read_cases (path : List Text) (value : Json) :
    (∃ read, bag.read path value = .ok read ∧ readBag value = .ok (.ofJson read)) ∨
      ∃ problem told, bag.read path value = .error problem ∧ readBag value = .error told := by
  cases value with
  | object fields =>
      rw [readBag, read_bag, read_bag]
      split
      case isTrue => exact .inr ⟨_, _, rfl, rfl⟩
      case isFalse =>
        cases fields.find? fun field => !field.2.isTextOrNull with
        | some field => exact .inr ⟨_, _, rfl, rfl⟩
        | none => exact .inl ⟨_, rfl, rfl⟩
  | _ => exact .inr ⟨_, _, rfl, rfl⟩

theorem read_components_object (fields : List (Text × Json)) :
    readComponents (.object fields) = (readBag (.object fields)).map .single := by
  rw [readComponents, Schema.components, Schema.read, readBag, Schema.read_bag]
  cases fields.any fun field => (Component.ofName? field.1).isNone with
  | true => rfl
  | false => cases fields.find? fun field => !field.2.isTextOrNull <;> rfl

theorem read_components_array (items : List Json) :
    readComponents (.array items) =
      match items with
      | [first, second] =>
          match readBag first, readBag second with
          | .ok firstBag, .ok secondBag => .ok (.pair firstBag secondBag)
          | _, _ => .error .componentsNotAnObject
      | _ => .error .componentsNotAnObject := by
  match items with
  | [] | [_] => rfl
  | _ :: _ :: _ :: rest =>
      have more : 2 < rest.length + 1 + 1 + 1 := by omega
      rw [readComponents, Schema.components, Schema.read, Schema.read, List.length_cons,
        List.length_cons, List.length_cons, if_pos more]
      rfl
  | [first, second] =>
      have each : ([first, second].zipIdx.mapM fun (value, index) =>
          Schema.bag.read ([componentsKey] ++ [decimalText index]) value) =
            (Schema.bag.read [componentsKey, ['0']] first).bind fun firstRead =>
              (Schema.bag.read [componentsKey, ['1']] second).bind fun secondRead =>
                .ok [firstRead, secondRead] := by
        rfl
      rw [readComponents, Schema.components, Schema.read, Schema.read, if_neg (by simp),
        if_neg (by simp), each]
      have noBag : Schema.bag.read [componentsKey] (.array [first, second]) =
          .error .componentsNotAnObject := rfl
      simp only [noBag]
      rcases Schema.bag_read_cases [componentsKey, ['0']] first with
        ⟨firstRead, same, found⟩ | ⟨problem, told, same, found⟩
      · rcases Schema.bag_read_cases [componentsKey, ['1']] second with
          ⟨secondRead, otherSame, otherFound⟩ | ⟨otherProblem, otherTold, otherSame, otherFound⟩
        · simp only [same, found, otherSame, otherFound]
          rfl
        · simp only [same, found, otherSame, otherFound]
          rfl
      · simp only [same, found]
        rfl

theorem Schema.read_record (required path : List Text) (properties : List (Text × Schema))
    (fields : List (Text × Json)) :
    (object ⟨required, none, false⟩ none properties).read path (.object fields) =
      match required.find? fun key => (fields.lookup key).isNone with
      | some key => .error ⟨path, .required key⟩
      | none =>
          if fields.any fun field => !(properties.map Prod.fst).contains field.1 then
            .error ⟨path, .noAdditional⟩
          else (readProperties properties path fields).map .object := by
  rw [read, ObjectRules.problem?]
  cases required.find? fun key => (fields.lookup key).isNone with
  | some key => rfl
  | none =>
      simp only [Option.any_none, Bool.false_eq_true, if_false, readAdditional]
      split <;> rfl

namespace ParseRequest

theorem of_json_object (fields : List (Text × Json)) :
    ofJson (.object fields) =
      match fields.lookup addressKey with
      | none => .error .missingAddress
      | some value =>
          if fields.any fun field => field.1 ≠ addressKey then .error .unknownProperty
          else (readAddress value).map ParseRequest.mk := by
  have others : (fields.any fun field => !([addressKey].contains field.1)) =
      fields.any fun field => field.1 ≠ addressKey := by simp
  rw [ofJson, Schema.parseRequest, Schema.read_record]
  cases listed : fields.lookup addressKey with
  | none =>
      rw [List.find?_cons_of_pos (by simp [listed])]
      rfl
  | some value =>
      rw [List.find?_cons_of_neg (by simp [listed])]
      simp only [List.find?_nil, List.map_cons, List.map_nil, others]
      split
      case isTrue => rfl
      case isFalse =>
        simp only [Schema.readProperties, listed, List.nil_append, Schema.address_read]
        cases readAddress value with
        | error problem => rfl
        | ok text =>
          simp [Except.map, Except.bind, ofRead, Json.field?, Json.lookup_put_self, Json.text?]

end ParseRequest

namespace StandardizeRequest

theorem read_components_property (fields : List (Text × Json)) :
    ((Schema.readProperties [(componentsKey, Schema.components)] [] fields).map .object).map ofRead =
      (readField readComponents (fields.lookup componentsKey)).map fun components =>
        ⟨(fields.lookup addressKey).bind Json.text?, components⟩ := by
  rw [Schema.readProperties]
  cases sent : fields.lookup componentsKey with
  | none => simp [Schema.readProperties, readField, Except.map, ofRead, Json.field?, sent]
  | some value =>
      have apart : addressKey ≠ componentsKey := by decide
      have read : readField readComponents (some value) =
          (Schema.components.read [componentsKey] value).map fun read =>
            some (Components.ofJson read) := by
        rw [readField, readComponents]
        cases Schema.components.read [componentsKey] value <;> rfl
      rw [read]
      simp only [List.nil_append]
      cases Schema.components.read [componentsKey] value with
      | error problem => rfl
      | ok kept =>
          simp [Schema.readProperties, Except.map, Except.bind, ofRead, Json.field?,
            Json.lookup_put_self, Json.lookup_put_other _ _ _ _ apart]

theorem of_json_object (fields : List (Text × Json)) :
    ofJson (.object fields) =
      if fields.any fun field => field.1 ≠ addressKey && field.1 ≠ componentsKey then
        .error .unknownProperty
      else
        (readField readAddress (fields.lookup addressKey)).bind fun address =>
          (readField readComponents (fields.lookup componentsKey)).map fun components =>
            ⟨address, components⟩ := by
  have others : (fields.any fun field => !([addressKey, componentsKey].contains field.1)) =
      fields.any fun field => field.1 ≠ addressKey && field.1 ≠ componentsKey := by simp
  rw [ofJson, Schema.standardizeRequest, Schema.read_record]
  simp only [List.find?_nil, List.map_cons, List.map_nil, others]
  split
  case isTrue => rfl
  case isFalse =>
    have apart : componentsKey ≠ addressKey := by decide
    rw [Schema.readProperties]
    cases given : fields.lookup addressKey with
    | none =>
        simp only [read_components_property, given]
        rfl
    | some value =>
        simp only [List.nil_append, Schema.address_read, readField]
        cases readAddress value with
        | error problem => rfl
        | ok text =>
            have next := read_components_property (Json.put addressKey (.string text) fields)
            rw [Json.lookup_put_self, Json.lookup_put_other _ _ _ _ apart] at next
            exact next

end StandardizeRequest

end PostalAddress
