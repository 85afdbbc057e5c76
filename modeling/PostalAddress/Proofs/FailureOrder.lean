import PostalAddress.Proofs.BodyReading
import PostalAddress.Proofs.KeyGate
import PostalAddress.Proofs.RequestInput

/-!
How a posted request fails. The body is read first, then a parse asks for a key, then the schema is
checked, and then that there is something to work on. The first of these that fails is told to the
client, in a body that holds nothing else, and then the locator has not been asked. In development a
page tells of it, and the failures of the service itself have one status.
-/

namespace PostalAddress

open Check (Decide FirstFailure NoneArises)

namespace Http

namespace ToldFailure

def ofRefusal : Refusal → ToldFailure
  | .invalid _ => ⟨422, "value_error".toList, false⟩
  | .missingAddress | .missingInput => ⟨400, "bad_request".toList, false⟩
  | .missingKey => ⟨401, "not_authenticated".toList, false⟩
  | .unknownKey => ⟨403, "not_authorized".toList, false⟩

def statusIn (stage : Stage) (failure : ToldFailure) : Nat :=
  if stage = .development ∧ failure.foreign = false then 500 else failure.status

end ToldFailure

/-- An exchange in which nothing but a failure is told. -/
structure Exchange.Tells (exchange : Exchange) (stage : Stage) (failure : ToldFailure) : Prop where
  status : exchange.response.status = failure.statusIn stage
  body : stage ≠ .development →
    ∃ fields, exchange.response.body = .json (.object [("error".toList, .object fields)]) ∧
      fields.lookup "code".toList = some (.string failure.code)
  page : stage = .development →
    ∃ mediaType shown, exchange.response.body = .errorPage mediaType shown
  unasked : exchange.asked = []

section Told

variable (server : Server) (request : Request)

theorem Server.unread_tells (error : BodyError) :
    (server.unread request error).Tells server.stage (.ofBodyError error) := by
  unfold unread errorResponse
  split
  case isTrue development =>
    constructor
    case status => simp [ToldFailure.statusIn, ToldFailure.ofBodyError, ToldFailure.ofReader]; rfl
    case body => exact fun outside => absurd development outside
    case page => exact fun _ => ⟨_, _, rfl⟩
    case unasked => rfl
  case isFalse outside =>
    constructor
    case status => simp [ToldFailure.statusIn, ToldFailure.ofBodyError, ToldFailure.ofReader]; rfl
    case body => exact fun _ => by cases error <;> exact ⟨_, rfl, rfl⟩
    case page => exact fun development => absurd development outside
    case unasked => rfl

theorem Server.failed_tells (refusal : Refusal) (route : Route) (bytes : Nat) :
    ((server.failed request (.refused refusal)).exchange route bytes).Tells server.stage
      (.ofRefusal refusal) := by
  have own : (ToldFailure.ofRefusal refusal).foreign = false := by cases refusal <;> rfl
  unfold failed errorResponse
  split
  case isTrue development =>
    constructor
    case status => simp [ToldFailure.statusIn, development, own]; rfl
    case body => exact fun outside => absurd development outside
    case page => exact fun _ => ⟨_, _, rfl⟩
    case unasked => rfl
  case isFalse outside =>
    constructor
    case status =>
      simp only [ToldFailure.statusIn, outside, false_and, if_false]
      cases refusal <;> rfl
    case body => exact fun _ => by cases refusal <;> exact ⟨_, rfl, rfl⟩
    case page => exact fun development => absurd development outside
    case unasked => rfl

end Told

def keyChecks (keys : List Text) (request : Request) : List (Check ToldFailure) :=
  [⟨.ofRefusal .missingKey, request.LacksKey⟩,
    ⟨.ofRefusal .unknownKey, request.ShowsUnknownKey keys⟩]

def inputChecks (holds schema gives : Json → Prop) : List (Check ToldFailure) :=
  [⟨⟨422, "value_error".toList, false⟩, ∃ body, holds body ∧ ¬schema body⟩,
    ⟨⟨400, "bad_request".toList, false⟩, ∃ body, holds body ∧ ¬gives body⟩]

def Operation.valueChecks (keys : List Text) (request : Request) (holds : Json → Prop) :
    Operation → List (Check ToldFailure)
  | parse => keyChecks keys request ++ inputChecks holds Json.IsParseRequest Json.GivesAddress
  | standardize => inputChecks holds Json.IsStandardizeRequest
      (fun body => body.GivesAddress ∨ body.GivesComponents)

/-- All that is checked of a posted request, in its order. -/
def Operation.checks (operation : Operation) (server : Server) (request : Request) :
    List (Check ToldFailure) :=
  bodyChecks server.surroundings request ++
    operation.valueChecks server.apiKeys request (request.Holds server.surroundings)

theorem guard_decided (server : Server) (request : Request) :
    Decide (keyChecks server.apiKeys request)
      ((server.keyStatus request).guard.mapError ToldFailure.ofRefusal) := by
  have missing := (server.key_status_iff request).1
  have unknown := (server.key_status_iff request).2
  cases status : server.keyStatus request with
  | missing => exact Decide.cons_of_arises _ _ (missing.1 status)
  | unknown =>
      rw [status] at missing
      apply Decide.cons_of_not
      · intro lacks
        cases missing.2 lacks
      · exact Decide.cons_of_arises _ _ (unknown.1 status)
  | valid =>
      rw [status] at missing unknown
      apply Decide.cons_of_not
      · intro lacks
        cases missing.2 lacks
      · apply Decide.cons_of_not
        · intro shows
          cases unknown.2 shows
        · exact List.forall_mem_nil _

section Input

variable {Request Value : Type} {schema gives : Json → Prop} {body : Json}
  {read : Except SchemaProblem Request} {answer : Except Refusal Value}
  (accepts : (∃ request, read = .ok request) ↔ schema body)

include accepts

/-- A request that is not read is invalid, and one that is read lacks an input or is answered. -/
theorem input_decided (refusal : Refusal)
    (told : ToldFailure.ofRefusal refusal = ⟨400, "bad_request".toList, false⟩)
    (invalid : ∀ problem, read = .error problem → answer = .error (.invalid problem))
    (given : ∀ request, read = .ok request →
      (∃ answered, answer = .ok answered ∧ gives body) ∨
        answer = .error refusal ∧ ¬gives body) :
    Decide (inputChecks (· = body) schema gives) (answer.mapError ToldFailure.ofRefusal) := by
  simp only [inputChecks, exists_eq_left]
  cases outcome : read with
  | error problem =>
      rw [invalid problem outcome]
      apply Decide.cons_of_arises
      intro kept
      rcases accepts.2 kept with ⟨request, accepted⟩
      rw [outcome] at accepted
      cases accepted
  | ok request =>
      apply Decide.cons_of_not _ (not_not.2 (accepts.1 ⟨request, outcome⟩))
      rcases given request outcome with ⟨answered, same, gives⟩ | ⟨same, none⟩
      · rw [same]
        exact Decide.cons_of_not _ (not_not.2 gives) (List.forall_mem_nil _)
      · rw [same, Except.mapError, told]
        exact Decide.cons_of_arises _ _ none

end Input

theorem answer_parse_decided (tagger : Tagger) (body : Json) :
    Decide (inputChecks (· = body) Json.IsParseRequest Json.GivesAddress)
      ((answerParse tagger body).mapError ToldFailure.ofRefusal) := by
  have accepts := (ParseRequest.of_json_decided body).ok_iff.trans (parse_checks_pass_iff body)
  apply input_decided accepts .missingAddress rfl
  · intro problem read
    rw [answerParse, read]
  · intro request read
    have given := request.address_given_iff body read
    rw [answerParse, read, ← given]
    by_cases empty : request.address = []
    · exact .inr ⟨by simp [empty], not_not.2 empty⟩
    · exact .inl ⟨parse tagger request.address, by simp [empty], empty⟩

theorem answer_standardize_decided (tagger : Tagger) (body : Json) :
    Decide
      (inputChecks (· = body) Json.IsStandardizeRequest
        (fun body => body.GivesAddress ∨ body.GivesComponents))
      ((answerStandardize tagger body).mapError ToldFailure.ofRefusal) := by
  have accepts :=
    (StandardizeRequest.of_json_decided body).ok_iff.trans (standardize_checks_pass_iff body)
  apply input_decided accepts .missingInput rfl
  · intro problem read
    rw [answerStandardize, read]
  · intro request read
    have given : request.GivesInput ↔ body.GivesAddress ∨ body.GivesComponents :=
      or_congr (request.address_given_iff body read) (request.components_given_iff body read)
    rw [answerStandardize, read, ← given]
    exact request.answer_cases tagger

namespace Operation

def answer (operation : Operation) (keyStatus : KeyStatus) (tagger : Tagger) (body : Json) :
    Except Refusal Outcome :=
  match operation with
  | parse => Outcome.parse keyStatus tagger body
  | standardize => Outcome.standardize tagger body

/-- How a request ends, with the failure that is told or with an outcome. -/
def result (operation : Operation) (server : Server) (tagger : Tagger) (request : Request) :
    Except ToldFailure Outcome :=
  ((request.readBody server.surroundings).mapError ToldFailure.ofBodyError).bind fun body =>
    (operation.answer (server.keyStatus request) tagger body.value).mapError ToldFailure.ofRefusal

theorem answer_status (operation : Operation) (keyStatus : KeyStatus) (tagger : Tagger)
    (body : Json) (outcome : Outcome)
    (answered : operation.answer keyStatus tagger body = .ok outcome) :
    outcome.response.status = 200 := by
  cases operation with
  | parse => exact Outcome.parse_ok_status keyStatus tagger body outcome answered
  | standardize =>
      change (answerStandardize tagger body).map Outcome.ofStandardized = .ok outcome at answered
      cases standard : answerStandardize tagger body with
      | error refusal =>
          rw [standard] at answered
          cases answered
      | ok value =>
          rw [standard] at answered
          cases answered
          rfl

section Checks

variable (operation : Operation) (server : Server) (tagger : Tagger) (request : Request)

theorem routed_eq (body : Json) :
    server.routed request operation.route tagger body =
      (operation.answer (server.keyStatus request) tagger body).mapError .refused := by
  cases operation <;> rfl

theorem answer_decided (body : Json) :
    Decide (operation.valueChecks server.apiKeys request (· = body))
      ((operation.answer (server.keyStatus request) tagger body).mapError
        ToldFailure.ofRefusal) := by
  cases operation with
  | parse =>
      apply (guard_decided server request).bind_told
      intro _ _
      exact (answer_parse_decided tagger body).map_told _ Outcome.ofParsed
  | standardize => exact (answer_standardize_decided tagger body).map_told _ _

theorem holds_eq (body : ReadBody)
    (read : (request.readBody server.surroundings).mapError ToldFailure.ofBodyError = .ok body) :
    request.Holds server.surroundings = (· = body.value) := by
  cases unmapped : request.readBody server.surroundings with
  | error error =>
      rw [unmapped] at read
      cases read
  | ok value =>
      rw [unmapped] at read
      cases read
      funext held
      exact propext (request.holds_iff body unmapped held)

theorem result_decided :
    Decide (operation.checks server request) (operation.result server tagger request) := by
  apply (request.read_body_decided server.surroundings).bind
  intro body read
  rw [holds_eq server request body read]
  exact answer_decided operation server tagger request body.value

end Checks

theorem failure_status (operation : Operation) (server : Server) (request : Request)
    (failure : ToldFailure) (first : FirstFailure (operation.checks server request) failure) :
    failure.status ∈ [400, 401, 403, 413, 415, 422] := by
  have listed : ∀ check ∈ operation.checks server request,
      check.failure.status ∈ [400, 401, 403, 413, 415, 422] := by
    cases operation <;> simp [checks, valueChecks, bodyChecks, keyChecks, inputChecks,
      ToldFailure.ofReader, ToldFailure.ofRefusal]
  rcases first with ⟨before, check, behind, parted, _, _, told⟩
  rw [← told]
  exact listed check (by simp [parted])

end Operation

namespace Request.PostsTo

variable {server : Server} {request : Request} {operation : Operation}
  (posts : request.PostsTo server operation) (tagger : Tagger)

include posts

theorem ends :
    (∃ failure, operation.result server tagger request = .error failure ∧
        (server.respond tagger request).Tells server.stage failure) ∨
      (∃ outcome, operation.result server tagger request = .ok outcome ∧
        (server.respond tagger request).response.status = 200) := by
  unfold Operation.result
  cases read : request.readBody server.surroundings with
  | error error =>
      rw [server.respond_unread tagger request error read]
      exact .inl ⟨.ofBodyError error, rfl, server.unread_tells request error⟩
  | ok body =>
      rw [posts.respond_read tagger body read, operation.routed_eq]
      cases answered : operation.answer (server.keyStatus request) tagger body.value with
      | error refusal =>
          have told := server.failed_tells request refusal operation.route body.bytes
          refine .inl ⟨.ofRefusal refusal, ?_, told⟩
          change (operation.answer _ tagger body.value).mapError _ = _
          rw [answered]
          rfl
      | ok outcome =>
          have status := operation.answer_status _ tagger body.value outcome answered
          refine .inr ⟨outcome, ?_, status⟩
          change (operation.answer _ tagger body.value).mapError _ = _
          rw [answered]
          rfl

/-- Only an error in the body comes before the header that lets any page read the answer. -/
theorem allow_origin_iff :
    (server.respond tagger request).response.allowOrigin = some ['*'] ↔
      NoneArises (bodyChecks server.surroundings request) := by
  rw [← (request.read_body_decided server.surroundings).ok_iff]
  cases read : request.readBody server.surroundings with
  | error error =>
      have closed : (server.unread request error).response.allowOrigin = none := by
        unfold Server.unread Server.errorResponse
        split <;> rfl
      rw [server.respond_unread tagger request error read, closed]
      constructor
      · intro impossible
        cases impossible
      · intro impossible
        rcases impossible with ⟨_, same⟩
        cases same
  | ok body =>
      rw [posts.respond_read tagger body read]
      exact ⟨fun _ => ⟨body, rfl⟩, fun _ => rfl⟩

end Request.PostsTo

/-- The first check that arises decides the answer to a posted request, and if none does it is
answered. -/
theorem posted_failures_in_order (server : Server) (tagger : Tagger) (request : Request)
    (operation : Operation) (posts : request.PostsTo server operation) :
    let exchange := server.respond tagger request
    let checks := operation.checks server request
    (∀ failure, FirstFailure checks failure → exchange.Tells server.stage failure) ∧
      (exchange.response.status = 200 ↔ NoneArises checks) ∧
      (exchange.response.status ≠ 200 →
        ∃ failure, FirstFailure checks failure ∧ exchange.Tells server.stage failure) ∧
      (exchange.response.allowOrigin = some ['*'] ↔
        NoneArises (bodyChecks server.surroundings request)) ∧
      (exchange.asked ≠ [] → exchange.response.status = 200) ∧
      (server.stage ≠ .development → exchange.response.status ≠ 500) := by
  intro exchange checks
  have decided := operation.result_decided server tagger request
  have allowed := posts.allow_origin_iff tagger
  rcases posts.ends tagger with ⟨failure, result, tells⟩ | ⟨outcome, result, answered⟩
  · have first : FirstFailure checks failure := (decided.error_iff failure).1 result
    have listed := operation.failure_status server request failure first
    have failed : exchange.response.status ≠ 200 := by
      rw [tells.status, ToldFailure.statusIn]
      split
      case isTrue => decide
      case isFalse =>
        have apart : ∀ status ∈ [400, 401, 403, 413, 415, 422], status ≠ 200 := by decide
        exact apart failure.status listed
    refine ⟨?_, ?_, ?_, allowed, ?_, ?_⟩
    · intro other otherFirst
      rw [← Check.first_failure_unique checks failure other first otherFirst]
      exact tells
    · constructor
      · intro answered
        exact absurd answered failed
      · intro none
        exact absurd none (Check.first_failure_arises checks failure first)
    · intro _
      exact ⟨failure, first, tells⟩
    · intro asked
      exact absurd tells.unasked asked
    · intro outside
      have apart : ∀ status ∈ [400, 401, 403, 413, 415, 422], status ≠ 500 := by decide
      rw [tells.status, ToldFailure.statusIn, if_neg fun both => outside both.1]
      exact apart failure.status listed
  · have none : NoneArises checks := decided.ok_iff.1 ⟨outcome, result⟩
    refine ⟨?_, ?_, ?_, allowed, ?_, ?_⟩
    · intro failure first
      exact absurd none (Check.first_failure_arises checks failure first)
    · exact ⟨fun _ => none, fun _ => answered⟩
    · intro failed
      exact absurd answered failed
    · intro _
      exact answered
    · intro _
      rw [answered]
      decide

/-- An unknown key is told, and not that an array is no request. -/
theorem unknown_key_before_schema :
    let tagger := Tagger.fixed (.parsed .streetAddress [])
    let request := (Request.posting "/api/parse".toList jsonType
      (asciiBytes "[1]".toList)).withKey "guess".toList
    request.PostsTo testServer .parse ∧
      ∃ failure, FirstFailure (Operation.parse.checks testServer request) failure ∧
        failure.status = 403 ∧
        (testServer.respond tagger request).Tells testServer.stage failure := by
  intro tagger request
  have posts : request.PostsTo testServer .parse := by
    have path : Route.parse.matchesPath (testServer.pathOf request) = true := by decide +kernel
    exact ⟨rfl, path⟩
  have refused : (testServer.respond tagger request).response.status = 403 := by decide +kernel
  have failed : (testServer.respond tagger request).response.status ≠ 200 := by
    rw [refused]
    decide
  rcases (posted_failures_in_order testServer tagger request .parse posts).2.2.1 failed with
    ⟨failure, first, tells⟩
  have status : failure.statusIn testServer.stage = failure.status := rfl
  exact ⟨posts, failure, first, (status.symm.trans tells.status.symm).trans refused, tells⟩

/-- A lone byte order mark is no JSON, and yet it is read, as the empty object. An unknown charset
is told although its name begins as it should. -/
theorem mark_read_and_charset_unknown :
    let tagger := Tagger.fixed (.parsed .streetAddress [])
    let asking := fun (charset : Text) body => (Request.posting "/api/parse".toList
      (jsonType ++ "; charset=".toList ++ charset) body).withKey "dev-key".toList
    let status := fun request => (testServer.respond tagger request).response.status
    let address := asciiBytes "\x7b\"address\": \"12 Main St\"\x7d".toList
    let mark : Bytes := [0xEF, 0xBB, 0xBF]
    (∀ charset body, (asking charset body).PostsTo testServer .parse) ∧
      Utf8.decode mark = ['\ufeff'] ∧ Json.read? ['\ufeff'] = none ∧
      status (asking "utf-8".toList mark) = 422 ∧
      status (asking "utf-8".toList address) = 200 ∧
      status (asking "utf-foo".toList address) = 415 ∧
      status (asking "utf-8".toList []) = 422 ∧ status (asking "latin1".toList []) = 415 := by
  intro tagger asking status address mark
  have posts (charset : Text) (body : Bytes) : (asking charset body).PostsTo testServer .parse := by
    have path : Route.parse.matchesPath (testServer.pathOf (asking [] [])) = true := by
      decide +kernel
    exact ⟨rfl, path⟩
  have unread : Json.read? ['\ufeff'] = none := rfl
  refine ⟨posts, by decide +kernel, unread, ?_, ?_, ?_, ?_, ?_⟩ <;> decide +kernel

end Http

end PostalAddress
