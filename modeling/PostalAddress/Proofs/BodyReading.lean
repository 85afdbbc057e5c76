import PostalAddress.Http.Application
import PostalAddress.Proofs.CheckOrder

/-!
What becomes of the body of a request. A body counts only if it is declared to be there and to be
JSON. Its charset, its compression, its size and its text are checked in this order; a body that
does not count is the empty object.
-/

namespace PostalAddress.Http

open Check (Decide NoneArises)

/-- A failure that a library tells of brings a status of its own. -/
structure ToldFailure where
  status : Nat
  code : Text
  foreign : Bool

namespace ToldFailure

def ofReader (status : Nat) : ToldFailure := ⟨status, "bad_request".toList, true⟩

def ofBodyError (error : BodyError) : ToldFailure := ofReader error.status

end ToldFailure

structure Request.SendsJson (request : Request) (contentType : ContentType) : Prop where
  sent : request.declaresBody = true
  declared : request.contentType? = some contentType
  isJson : contentType.mediaType = jsonType

/-- The value of a text is read behind a byte order mark. Nothing is the empty object, and a value
that is no object or array does not count. -/
inductive HoldsJson (text : Text) : Json → Prop where
  | nothing (none : dropByteOrderMark text = []) : HoldsJson text (.object [])
  | object (fields : List (Text × Json))
      (read : Json.read? (dropByteOrderMark text) = some (.object fields)) :
      HoldsJson text (.object fields)
  | array (items : List Json)
      (read : Json.read? (dropByteOrderMark text) = some (.array items)) :
      HoldsJson text (.array items)

section Surroundings

variable (surroundings : Surroundings)

/-- The value that stands for the body of a request. -/
inductive Request.Holds (request : Request) : Json → Prop where
  | sent (contentType : ContentType) (payload : Payload) (decode : Bytes → Text) (value : Json)
      (sends : request.SendsJson contentType)
      (unpacked : request.payload? surroundings = some payload) (complete : payload.complete = true)
      (known : surroundings.charset? contentType.charset = some decode)
      (held : HoldsJson (decode payload.bytes) value) : request.Holds value
  | nothing (none : ∀ contentType, ¬request.SendsJson contentType) : request.Holds (.object [])

def bodyChecks (request : Request) : List (Check ToldFailure) :=
  [⟨.ofReader 415, ∃ contentType, request.SendsJson contentType ∧
      ¬"utf-".toList <+: contentType.charset⟩,
    ⟨.ofReader 415, ∃ contentType, request.SendsJson contentType ∧
      request.contentEncoding ∉ ["identity".toList, "gzip".toList, "deflate".toList]⟩,
    ⟨.ofReader 415, ∃ contentType, request.SendsJson contentType ∧
      surroundings.charset? contentType.charset = none⟩,
    ⟨.ofReader 413, ∃ contentType, request.SendsJson contentType ∧
      ∃ payload, request.payload? surroundings = some payload ∧ 102400 < payload.bytes.length⟩,
    ⟨.ofReader 400, ∃ contentType, request.SendsJson contentType ∧
      ∀ value, ¬request.Holds surroundings value⟩]

end Surroundings

theorem read_json_text_iff (text : Text) (value : Json) :
    readJsonText? text = some value ↔ HoldsJson text value := by
  have readNothing : Json.read? [] = none := by rfl
  constructor
  · intro read
    unfold readJsonText? at read
    split at read
    case h_1 unmarked =>
      cases read
      exact .nothing unmarked
    case h_2 =>
      split at read
      case h_1 fields found =>
        cases read
        exact .object fields found
      case h_2 items found =>
        cases read
        exact .array items found
      case h_3 => cases read
  · intro held
    unfold readJsonText?
    cases held with
    | nothing unmarked => rw [unmarked]
    | object fields read =>
        split
        case h_1 unmarked =>
          rw [unmarked, readNothing] at read
          cases read
        case h_2 => rw [read]
    | array items read =>
        split
        case h_1 unmarked =>
          rw [unmarked, readNothing] at read
          cases read
        case h_2 => rw [read]

namespace Request

variable {surroundings : Surroundings} {request : Request} {contentType : ContentType}

theorem payload_none_iff : request.payload? surroundings = none ↔
    request.contentEncoding ∉ ["identity".toList, "gzip".toList, "deflate".toList] := by
  unfold payload?
  split
  case isTrue plain => simp [plain]
  case isFalse packed =>
    split
    case isTrue gzip => simp [gzip]
    case isFalse noGzip =>
      split
      case isTrue deflate => simp [deflate]
      case isFalse noDeflate =>
        simp only [List.mem_cons, packed, noGzip, noDeflate, List.not_mem_nil, or_self,
          not_false_eq_true]

theorem SendsJson.unique {other : ContentType} (sends : request.SendsJson contentType)
    (otherSends : request.SendsJson other) : other = contentType :=
  Option.some.inj (otherSends.declared.symm.trans sends.declared)

theorem SendsJson.violates_iff (sends : request.SendsJson contentType)
    (violates : ContentType → Prop) :
    (∃ contentType, request.SendsJson contentType ∧ violates contentType) ↔
      violates contentType := by
  constructor
  · rintro ⟨other, otherSends, violated⟩
    rwa [sends.unique otherSends] at violated
  · intro violated
    exact ⟨contentType, sends, violated⟩

theorem SendsJson.read_body (sends : request.SendsJson contentType) :
    request.readBody surroundings = request.readJson surroundings contentType.charset := by
  have isJson : contentType.isJson = true := decide_eq_true sends.isJson
  have declared : request.jsonType? = some contentType := by
    simp [jsonType?, sends.sent, sends.declared, isJson]
  rw [readBody, declared]

theorem read_body_nothing (none : ∀ contentType, ¬request.SendsJson contentType) :
    request.readBody surroundings = .ok ⟨.object [], 0⟩ := by
  have undeclared : request.jsonType? = Option.none := by
    apply Option.eq_none_iff_forall_ne_some.2
    intro contentType declared
    unfold jsonType? at declared
    split at declared
    case isTrue sent =>
      rcases Option.filter_eq_some_iff.1 declared with ⟨listed, isJson⟩
      exact none contentType ⟨sent, listed, of_decide_eq_true isJson⟩
    case isFalse => cases declared
  rw [readBody, undeclared]

theorem sends_json_cases (request : Request) :
    (∃ contentType, request.SendsJson contentType) ∨
      ∀ contentType, ¬request.SendsJson contentType := by
  rw [← not_exists]
  exact em _

theorem SendsJson.holds_iff (sends : request.SendsJson contentType) (payload : Payload)
    (unpacked : request.payload? surroundings = some payload) (decode : Bytes → Text)
    (known : surroundings.charset? contentType.charset = some decode) (value : Json) :
    request.Holds surroundings value ↔
      payload.complete = true ∧ HoldsJson (decode payload.bytes) value := by
  constructor
  · intro holds
    cases holds with
    | sent other otherPayload otherDecode _ otherSends otherUnpacked complete otherKnown held =>
        cases sends.unique otherSends
        cases unpacked.symm.trans otherUnpacked
        cases known.symm.trans otherKnown
        exact ⟨complete, held⟩
    | nothing none => exact absurd sends (none contentType)
  · rintro ⟨complete, held⟩
    exact .sent contentType payload decode value sends unpacked complete known held

end Request

theorem read_payload_decided (decode : Bytes → Text) (payload : Payload) :
    Decide
      [⟨.ofReader 413, 102400 < payload.bytes.length⟩,
        ⟨.ofReader 400, ∀ value,
          ¬(payload.complete = true ∧ HoldsJson (decode payload.bytes) value)⟩]
      ((readPayload decode payload).mapError ToldFailure.ofBodyError) := by
  unfold readPayload
  split
  case isTrue large => exact Decide.cons_of_arises _ _ large
  case isFalse small =>
    apply Decide.cons_of_not _ small
    split
    case isTrue broken =>
      apply Decide.cons_of_arises
      rintro value ⟨complete, _⟩
      simp [complete] at broken
    case isFalse whole =>
      have complete : payload.complete = true := by simpa using whole
      split
      case h_1 value read =>
        apply Decide.cons_of_not
        · intro malformed
          exact malformed value ⟨complete, (read_json_text_iff _ value).1 read⟩
        · exact List.forall_mem_nil _
      case h_2 unread =>
        apply Decide.cons_of_arises
        rintro value ⟨_, held⟩
        rw [(read_json_text_iff _ value).2 held] at unread
        cases unread

theorem Request.read_body_decided (surroundings : Surroundings) (request : Request) :
    Decide (bodyChecks surroundings request)
      ((request.readBody surroundings).mapError ToldFailure.ofBodyError) := by
  rcases request.sends_json_cases with ⟨contentType, sends⟩ | none
  case inr =>
    rw [read_body_nothing none]
    change NoneArises _
    simp [bodyChecks, NoneArises, none]
  case inl =>
    rw [sends.read_body]
    have packed : request.payload? surroundings = none ↔ _ := payload_none_iff
    simp only [bodyChecks, sends.violates_iff, ← packed]
    unfold readJson
    split
    case isTrue foreign =>
      apply Decide.cons_of_arises
      simpa [← List.isPrefixOf_iff_prefix] using foreign
    case isFalse utf =>
      apply Decide.cons_of_not
      · simpa [← List.isPrefixOf_iff_prefix] using utf
      cases unpacked : request.payload? surroundings with
      | none => exact Decide.cons_of_arises _ _ rfl
      | some payload =>
          apply Decide.cons_of_not _ (Option.some_ne_none payload)
          cases known : surroundings.charset? contentType.charset with
          | none => exact Decide.cons_of_arises _ _ rfl
          | some decode =>
              apply Decide.cons_of_not _ (Option.some_ne_none decode)
              simp only [sends.holds_iff payload unpacked decode known, Option.some.injEq,
                exists_eq_left']
              exact read_payload_decided decode payload

theorem Request.read_json_parts {surroundings : Surroundings} {request : Request} {charset : Text}
    {body : ReadBody} (read : request.readJson surroundings charset = .ok body) :
    ∃ payload decode, request.payload? surroundings = some payload ∧
      surroundings.charset? charset = some decode ∧ payload.complete = true ∧
      HoldsJson (decode payload.bytes) body.value := by
  unfold readJson at read
  split at read
  case isTrue => cases read
  case isFalse =>
    split at read
    case h_1 => cases read
    case h_2 => cases read
    case h_3 payload decode unpacked known =>
      unfold readPayload at read
      split at read
      case isTrue => cases read
      case isFalse =>
        split at read
        case isTrue => cases read
        case isFalse whole =>
          split at read
          case h_1 value found =>
            cases read
            exact ⟨payload, decode, unpacked, known, by simpa using whole,
              (read_json_text_iff _ value).1 found⟩
          case h_2 => cases read

theorem Request.holds_iff {surroundings : Surroundings} (request : Request) (body : ReadBody)
    (read : request.readBody surroundings = .ok body) (value : Json) :
    request.Holds surroundings value ↔ value = body.value := by
  rcases request.sends_json_cases with ⟨contentType, sends⟩ | none
  · rw [sends.read_body] at read
    obtain ⟨payload, decode, unpacked, known, complete, held⟩ := read_json_parts read
    rw [sends.holds_iff payload unpacked decode known, ← read_json_text_iff,
      (read_json_text_iff _ _).2 held]
    simp [complete, eq_comm]
  · rw [read_body_nothing none] at read
    cases read
    constructor
    · intro holds
      cases holds with
      | sent contentType _ _ _ sends => exact absurd sends (none contentType)
      | nothing => rfl
    · rintro rfl
      exact .nothing none

end PostalAddress.Http
