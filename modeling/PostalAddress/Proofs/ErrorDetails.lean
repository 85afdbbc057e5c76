import Mathlib.Data.List.Basic
import PostalAddress.Service.ReportedError

/-!
What a client is told of the details of an error. They go out under their names, but for two: the
message is the one that the error has, and the code is the one of its class. So a code among the
details is told where the class has none, and is lost where the class has another one.
-/

namespace PostalAddress

namespace Json

variable (key : Text) (value : Json) (fields : List (Text × Json))

theorem put_names :
    (put key value fields).map Prod.fst =
      fields.map Prod.fst ++ if key ∈ fields.map Prod.fst then [] else [key] := by
  induction fields with
  | nil => rfl
  | cons field rest induction =>
      rw [put]
      split
      case isTrue same => simp [same]
      case isFalse apart =>
        have elsewhere : key ∈ (field :: rest).map Prod.fst ↔ key ∈ rest.map Prod.fst := by
          simp [Ne.symm apart]
        rw [List.map_cons, induction, if_congr elsewhere rfl rfl]
        rfl

theorem put_distinct (distinct : (fields.map Prod.fst).Nodup) :
    ((put key value fields).map Prod.fst).Nodup := by
  rw [put_names]
  split
  case isTrue => rwa [List.append_nil]
  case isFalse absent => exact List.nodup_append.2 ⟨distinct, by simp, by grind⟩

end Json

namespace ReportedError

def messageKey : Text := "message".toList

/-- The code that the details give, if it is a text and not empty. -/
def givenCode? (details : List (Text × Json)) : Option Text :=
  ((details.lookup codeKey).bind Json.text?).filter fun code => !code.isEmpty

/-- The code that the details give is told, and the one of the class if they give none. -/
def TellsGivenCode (errorClass : ErrorClass) (details : List (Text × Json))
    (error : ReportedError) : Prop :=
  error.code = ((givenCode? details).or errorClass.code?).map Json.string

variable (errorClass : ErrorClass) (message : Text) (details : List (Text × Json))

theorem code_of_class (own : Text) (fixed : errorClass.code? = some own) :
    (new errorClass message details).code = some (.string own) := by
  rw [new, fixed]

theorem code_without_class (free : errorClass.code? = none) :
    (new errorClass message details).code = (details.lookup codeKey).filter Json.isGiven := by
  rw [new, free]

theorem tells_given_of_class_iff (own : Text) (fixed : errorClass.code? = some own) :
    TellsGivenCode errorClass details (new errorClass message details) ↔
      ∀ code, givenCode? details = some code → code = own := by
  rw [TellsGivenCode, code_of_class errorClass message details own fixed, fixed]
  cases givenCode? details with
  | none => simp
  | some code => simp [eq_comm]

theorem tells_given_without_class_iff (free : errorClass.code? = none) :
    TellsGivenCode errorClass details (new errorClass message details) ↔
      ∀ code, details.lookup codeKey = some code → code.isGiven = true →
        ∃ text, code = .string text := by
  rw [TellsGivenCode, code_without_class errorClass message details free, free, givenCode?]
  cases details.lookup codeKey with
  | none => simp
  | some code =>
      cases code with
      | string text =>
          refine iff_of_true ?_ (by simp)
          cases text <;> rfl
      | null => simp [Json.text?, Json.isGiven]
      | bool value => simp [Json.text?, Json.isGiven, Option.filter_eq_none_iff]
      | number mantissa exponent => simp [Json.text?, Json.isGiven]
      | array items => simp [Json.text?, Json.isGiven]
      | object fields => simp [Json.text?, Json.isGiven]

theorem to_json_fields (error : ReportedError) :
    ∃ fields, error.toJson = .object fields ∧
      ((error.extra.map Prod.fst).Nodup → (fields.map Prod.fst).Nodup) ∧
      fields.lookup messageKey = some (.string error.message) ∧
      fields.lookup codeKey = error.code.or (error.extra.lookup codeKey) ∧
      ∀ key, key ≠ codeKey → key ≠ messageKey → fields.lookup key = error.extra.lookup key := by
  have apart : messageKey ≠ codeKey := by decide
  have distinct := Json.put_distinct messageKey (.string error.message) error.extra
  have message := Json.lookup_put_self messageKey (.string error.message) error.extra
  have others := Json.lookup_put_other messageKey (.string error.message) error.extra
  rw [toJson]
  cases error.code with
  | none => exact ⟨_, rfl, distinct, message, others _ apart.symm, fun key _ => others key⟩
  | some code =>
      have kept := Json.lookup_put_other codeKey code
        (Json.put messageKey (.string error.message) error.extra)
      refine ⟨_, rfl, fun names => Json.put_distinct codeKey code _ (distinct names), ?_,
        Json.lookup_put_self codeKey code _, ?_⟩
      · exact (kept messageKey apart).trans message
      · intro key notCode notMessage
        exact (kept key notCode).trans (others key notMessage)

theorem extra_other (key : Text) (notCode : key ≠ codeKey) :
    (new errorClass message details).extra.lookup key = details.lookup key :=
  (Json.lookup_filter_keys (fun key => key ≠ codeKey) details key).trans
    (if_pos (decide_eq_true notCode))

theorem extra_no_code : (new errorClass message details).extra.lookup codeKey = none :=
  (Json.lookup_filter_keys (fun key => key ≠ codeKey) details codeKey).trans (if_neg (by simp))

theorem extra_distinct (distinct : (details.map Prod.fst).Nodup) :
    ((new errorClass message details).extra.map Prod.fst).Nodup :=
  distinct.sublist ((List.filter_sublist).map Prod.fst)

/-- The message and the details reach the client as they are given, but for a code that the class
has another one for or that is no text. -/
theorem details_told_as_given_iff :
    let error := new errorClass message details
    (∃ fields, error.toJson = .object fields ∧
        ((details.map Prod.fst).Nodup → (fields.map Prod.fst).Nodup) ∧
        fields.lookup messageKey = some (.string message) ∧
        fields.lookup codeKey = error.code ∧
        ∀ key, key ≠ codeKey → key ≠ messageKey → fields.lookup key = details.lookup key) ∧
      error.extra.lookup codeKey = none ∧
      (∀ key, key ≠ codeKey → error.extra.lookup key = details.lookup key) ∧
      (TellsGivenCode errorClass details error ↔
        (∀ own, errorClass.code? = some own →
          ∀ code, givenCode? details = some code → code = own) ∧
        (errorClass.code? = none → ∀ code, details.lookup codeKey = some code →
          code.isGiven = true → ∃ text, code = .string text)) := by
  intro error
  have others : ∀ key, key ≠ codeKey → error.extra.lookup key = details.lookup key :=
    extra_other errorClass message details
  have noCode : error.extra.lookup codeKey = none := extra_no_code errorClass message details
  refine ⟨?fields, noCode, others, ?code⟩
  case fields =>
    obtain ⟨fields, written, distinct, told, code, rest⟩ := error.to_json_fields
    refine ⟨fields, written, ?_, told, ?_, ?_⟩
    · exact fun names => distinct (extra_distinct errorClass message details names)
    · rw [code, noCode, Option.or_none]
    · intro key notCode notMessage
      rw [rest key notCode notMessage, others key notCode]
  case code =>
    cases fixed : errorClass.code? with
    | some own => simpa using tells_given_of_class_iff errorClass message details own fixed
    | none => simpa using tells_given_without_class_iff errorClass message details fixed

/-- A code that is given to an error of a class with a code goes out neither as the code nor among
the details. -/
theorem given_code_lost :
    let details := [(codeKey, Json.string "custom".toList), ("field".toList, .string "zip".toList)]
    let error := new .badRequest "It broke".toList details
    givenCode? details = some "custom".toList ∧ error.code = some (.string "bad_request".toList) ∧
      error.toJson = .object [("field".toList, .string "zip".toList),
        (messageKey, .string "It broke".toList), (codeKey, .string "bad_request".toList)] ∧
      ¬TellsGivenCode .badRequest details error := by
  refine ⟨rfl, rfl, rfl, ?_⟩
  intro told
  have same := congrArg (Option.bind · Json.text?) told
  revert same
  decide

end ReportedError

end PostalAddress
