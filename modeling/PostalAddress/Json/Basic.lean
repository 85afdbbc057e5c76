import PostalAddress.Text.Basic

/-!
JSON values. A number is kept as the exact decimal that was written, and the fields of an object
keep their order, which decides what problem of a request is reported first.
-/

namespace PostalAddress

inductive Json where
  | null
  | bool (value : Bool)
  /-- The number `mantissa * 10 ^ exponent`. -/
  | number (mantissa exponent : Int)
  | string (text : Text)
  | array (items : List Json)
  | object (fields : List (Text × Json))
  deriving Inhabited

namespace Json

/-- Sets a field. One that is there keeps its place and loses its value. -/
def put (key : Text) (value : Json) : List (Text × Json) → List (Text × Json)
  | [] => [(key, value)]
  | field :: fields =>
      if field.1 = key then (key, value) :: fields else field :: put key value fields

/-- Null, false, zero and the empty string count as not given. -/
def isGiven : Json → Bool
  | .null => false
  | .bool value => value
  | .number mantissa _ => mantissa ≠ 0
  | .string text => !text.isEmpty
  | .array _ | .object _ => true

def text? : Json → Option Text
  | .string text => some text
  | _ => none

def field? (value : Json) (key : Text) : Option Json :=
  match value with
  | .object fields => fields.lookup key
  | _ => none

def ofString (word : String) : Json := .string word.toList

def ofFields (fields : List (String × Json)) : Json :=
  .object (fields.map fun (key, value) => (key.toList, value))

def ofNat (number : Nat) : Json := .number number 0

theorem lookup_put_self (key : Text) (value : Json) (fields : List (Text × Json)) :
    (put key value fields).lookup key = some value := by
  induction fields with
  | nil => exact List.lookup_cons_self
  | cons field rest induction =>
      rw [put]
      split
      case isTrue => exact List.lookup_cons_self
      case isFalse apart =>
        rw [List.lookup_cons, beq_false_of_ne (Ne.symm apart), induction]

theorem lookup_put_other (key : Text) (value : Json) (fields : List (Text × Json)) (other : Text)
    (apart : other ≠ key) : (put key value fields).lookup other = fields.lookup other := by
  induction fields with
  | nil => rw [put, List.lookup_cons, beq_false_of_ne apart]
  | cons field rest induction =>
      rw [put]
      split
      case isTrue same =>
        rw [List.lookup_cons, List.lookup_cons, same, beq_false_of_ne apart]
      case isFalse => rw [List.lookup_cons, List.lookup_cons, induction]

theorem lookup_filter_keys (keeps : Text → Bool) (fields : List (Text × Json)) (key : Text) :
    (fields.filter fun field => keeps field.1).lookup key =
      if keeps key then fields.lookup key else none := by
  induction fields with
  | nil => simp
  | cons field rest induction =>
      rcases field with ⟨name, value⟩
      by_cases same : key = name
      · subst same
        cases kept : keeps key <;> simp [kept, induction]
      · have apart := beq_false_of_ne same
        cases kept : keeps name <;> simp [List.lookup_cons, kept, apart, induction]

end Json

end PostalAddress
