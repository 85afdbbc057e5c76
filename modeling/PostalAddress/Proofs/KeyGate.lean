import PostalAddress.Proofs.PostedRequests

/-!
The key of a request. A parse request that shows no key, or one that is not listed, is refused, and
the refusal depends on nothing else; which of the listed keys is shown makes no difference. For a
standardize request it makes no difference what key is shown. Only in development the kinds of
refusal have one status, and a page in a form that the client accepts.
-/

namespace PostalAddress

namespace Environment

theorem mem_keys_of_list_iff (list key : Text) :
    key ∈ keysOfList list ↔ key ≠ [] ∧ ∃ piece ∈ list.splitOn ',', Text.trim piece = key := by
  simp [keysOfList, and_comm]

/-- No key is empty, however blank the pieces of the list are. -/
theorem empty_not_key (environment : Environment) (keys : List Text)
    (listed : environment.apiKeys = .ok keys) : [] ∉ keys := by
  unfold apiKeys at listed
  split at listed
  case isTrue =>
    cases listed
    intro member
    exact ((mem_keys_of_list_iff _ []).1 member).1 rfl
  case isFalse =>
    split at listed
    case isTrue => cases listed
    case isFalse =>
      cases listed
      decide

end Environment

namespace Http

theorem Server.of_environment_iff (surroundings : Surroundings) (environment : Environment)
    (server : Server) :
    ofEnvironment surroundings environment = .ok server ↔
      ∃ keys port, environment.apiKeys = .ok keys ∧ environment.tcpPort = .ok port ∧
        server = ⟨keys, .ofEnvironment surroundings.machineName environment, port,
          environment.stage, surroundings⟩ := by
  unfold ofEnvironment
  cases environment.apiKeys with
  | error error => simp [bind, Except.bind]
  | ok keys =>
      cases environment.tcpPort with
      | error error => simp [bind, Except.bind]
      | ok port => simp [bind, Except.bind, eq_comm]

namespace Request

def LacksKey (request : Request) : Prop :=
  request.header? "x-api-key" = none ∨ request.header? "x-api-key" = some []

def ShowsUnknownKey (request : Request) (keys : List Text) : Prop :=
  ∃ key, request.header? "x-api-key" = some key ∧ key ≠ [] ∧ key ∉ keys

def ShowsKnownKey (request : Request) (keys : List Text) : Prop :=
  ∃ key, request.header? "x-api-key" = some key ∧ key ∈ keys

/-- Two requests that differ in nothing but the key that they show. -/
structure AgreesButForKey (left right : Request) : Prop where
  method : left.method = right.method
  url : left.url = right.url
  body : left.body = right.body
  header : ∀ name, name ≠ "x-api-key" → left.header? name = right.header? name

structure AsksToParse (server : Server) (request : Request) : Prop where
  posts : request.PostsTo server .parse
  read : ∃ body, request.readBody server.surroundings = .ok body

end Request

section Status

variable (server : Server) (request : Request)

theorem Server.key_status_iff :
    (server.keyStatus request = .missing ↔ request.LacksKey) ∧
      (server.keyStatus request = .unknown ↔ request.ShowsUnknownKey server.apiKeys) := by
  unfold keyStatus Request.header Request.LacksKey Request.ShowsUnknownKey
  cases request.header? "x-api-key" with
  | none => simp
  | some key =>
      cases key with
      | nil => simp
      | cons letter rest => by_cases listed : (letter :: rest) ∈ server.apiKeys <;> simp [listed]

/-- Both kinds of refusal at the gate are refusals by the guard. -/
theorem Server.guard_stops (reason : request.LacksKey ∨ request.ShowsUnknownKey server.apiKeys) :
    ∃ refusal, (server.keyStatus request).guard = .error refusal := by
  rcases reason with lacks | unknown
  · rw [(server.key_status_iff request).1.2 lacks]
    exact ⟨.missingKey, rfl⟩
  · rw [(server.key_status_iff request).2.2 unknown]
    exact ⟨.unknownKey, rfl⟩

theorem Server.same_guard (other : Request)
    (reason : request.LacksKey ∧ other.LacksKey ∨
      request.ShowsUnknownKey server.apiKeys ∧ other.ShowsUnknownKey server.apiKeys) :
    server.keyStatus request = server.keyStatus other := by
  rcases reason with ⟨lacks, otherLacks⟩ | ⟨unknown, otherUnknown⟩
  · rw [(server.key_status_iff request).1.2 lacks, (server.key_status_iff other).1.2 otherLacks]
  · rw [(server.key_status_iff request).2.2 unknown, (server.key_status_iff other).2.2 otherUnknown]

theorem Server.key_valid_of_known (noneEmpty : [] ∉ server.apiKeys)
    (known : request.ShowsKnownKey server.apiKeys) : server.keyStatus request = .valid := by
  rcases known with ⟨key, shown, member⟩
  have given : key ≠ [] := by
    intro same
    rw [same] at member
    exact noneEmpty member
  unfold keyStatus Request.header
  simp [shown, given, member]

end Status

theorem answer_parse_refusal (tagger : Tagger) (body : Json) (refusal : Refusal)
    (refused : answerParse tagger body = .error refusal) :
    refusal = .missingAddress ∨ ∃ problem, refusal = .invalid problem := by
  unfold answerParse at refused
  split at refused
  case h_1 problem _ =>
    cases refused
    exact .inr ⟨problem, rfl⟩
  case h_2 request _ =>
    split at refused
    case isTrue =>
      cases refused
      exact .inl rfl
    case isFalse => cases refused

namespace Outcome

theorem parse_ok_status (keyStatus : KeyStatus) (tagger : Tagger) (body : Json) (outcome : Outcome)
    (answered : parse keyStatus tagger body = .ok outcome) : outcome.response.status = 200 := by
  cases keyStatus with
  | missing => cases answered
  | unknown => cases answered
  | valid =>
      change (answerParse tagger body).map ofParsed = .ok outcome at answered
      cases parsed : answerParse tagger body with
      | error refusal =>
          rw [parsed] at answered
          cases answered
      | ok value =>
          rw [parsed] at answered
          cases answered
          rfl

/-- Behind the gate a request is refused for its body alone. -/
theorem parse_valid_refusal (tagger : Tagger) (body : Json) (refusal : Refusal)
    (refused : parse .valid tagger body = .error refusal) :
    refusal.error.errorClass.status ∈ [400, 422] := by
  change (answerParse tagger body).map ofParsed = .error refusal at refused
  cases answered : answerParse tagger body with
  | ok parsed =>
      rw [answered] at refused
      cases refused
  | error other =>
      rw [answered] at refused
      cases refused
      rcases answer_parse_refusal tagger body refusal answered with same | ⟨problem, same⟩
      · rw [same]
        exact .head _
      · rw [same]
        exact .tail _ (.head _)

end Outcome

namespace Server

variable (server : Server) (request : Request)

theorem refused_status (outside : server.stage ≠ .development) (refusal : Refusal) :
    (server.failed request (.refused refusal)).response.status =
      refusal.error.errorClass.status := by
  change (server.errorResponse request (.refused refusal)).status = _
  rw [errorResponse, if_neg outside]
  rfl

theorem refused_status_development (development : server.stage = .development)
    (refusal : Refusal) :
    (server.failed request (.refused refusal)).response.status = 500 := by
  change (server.errorResponse request (.refused refusal)).status = _
  rw [errorResponse, if_pos development]
  rfl

theorem refused_same (other : Request) (refusal : Refusal)
    (accepted : server.stage = .development → request.header "accept" = other.header "accept") :
    server.failed request (.refused refusal) = server.failed other (.refused refusal) := by
  have same : server.errorResponse request (.refused refusal) =
      server.errorResponse other (.refused refusal) := by
    unfold errorResponse
    split
    case isTrue development => rw [accepted development]
    case isFalse => rfl
  exact congrArg (Outcome.mk · [] []) same

theorem routed_stopped (tagger : Tagger) (body : Json) (refusal : Refusal)
    (stopped : (server.keyStatus request).guard = .error refusal) :
    server.routed request .parse tagger body = .error (.refused refusal) := by
  rw [routed, Outcome.parse, stopped]
  rfl

theorem parse_status_iff (outside : server.stage ≠ .development) (tagger : Tagger) (body : Json) :
    let status := (server.outcome request (server.routed request .parse tagger body)).response.status
    (status = 401 ↔ server.keyStatus request = .missing) ∧
      (status = 403 ↔ server.keyStatus request = .unknown) := by
  cases keyStatus : server.keyStatus request with
  | missing =>
      have stopped : (server.keyStatus request).guard = .error .missingKey := by rw [keyStatus]; rfl
      rw [server.routed_stopped request tagger body .missingKey stopped, outcome,
        server.refused_status request outside]
      decide
  | unknown =>
      have stopped : (server.keyStatus request).guard = .error .unknownKey := by rw [keyStatus]; rfl
      rw [server.routed_stopped request tagger body .unknownKey stopped, outcome,
        server.refused_status request outside]
      decide
  | valid =>
      have apart : ∀ status ∈ [200, 400, 422], status ≠ 401 ∧ status ≠ 403 := by decide
      have told : (server.outcome request
          (server.routed request .parse tagger body)).response.status ∈ [200, 400, 422] := by
        rw [routed, keyStatus]
        cases parsed : Outcome.parse .valid tagger body with
        | ok outcome =>
            have answered := Outcome.parse_ok_status .valid tagger body outcome parsed
            change outcome.response.status ∈ _
            simp [answered]
        | error refusal =>
            have refused := Outcome.parse_valid_refusal tagger body refusal parsed
            change (server.failed request (.refused refusal)).response.status ∈ _
            rw [server.refused_status request outside]
            exact .tail _ refused
      simp [apart _ told]

end Server

namespace Request.AgreesButForKey

variable {server : Server} {left right : Request} (agrees : left.AgreesButForKey right)

include agrees

theorem header_value (name : String) (other : name ≠ "x-api-key") :
    left.header name = right.header name := by
  unfold Request.header
  rw [agrees.header name other]

theorem read_body (surroundings : Surroundings) :
    left.readBody surroundings = right.readBody surroundings := by
  unfold readBody jsonType? declaresBody contentType? readJson payload? contentEncoding
  rw [agrees.body, agrees.header "content-type" (by decide),
    agrees.header "transfer-encoding" (by decide), agrees.header "content-length" (by decide),
    agrees.header_value "content-encoding" (by decide)]

theorem posts_to (operation : Operation) (posts : left.PostsTo server operation) :
    right.PostsTo server operation := by
  constructor
  case method =>
    rw [isMethod, ← agrees.method]
    exact posts.method
  case path =>
    have path := posts.path
    rw [Server.pathOf, Request.path, isPlain, agrees.url] at path
    exact path

theorem error_response (failure : Failure) :
    server.errorResponse left failure = server.errorResponse right failure := by
  unfold Server.errorResponse
  rw [agrees.header_value "accept" (by decide)]

theorem outcome (result : Except Failure Outcome) :
    server.outcome left result = server.outcome right result := by
  cases result with
  | ok outcome => rfl
  | error failure => exact congrArg (Outcome.mk · _ []) (agrees.error_response failure)

/-- Only by what it is routed to can an operation tell the keys apart. -/
theorem respond_eq (tagger : Tagger) (operation : Operation) (posts : left.PostsTo server operation)
    (same : ∀ body, server.routed left operation.route tagger body =
      server.routed right operation.route tagger body) :
    server.respond tagger left = server.respond tagger right := by
  cases leftRead : left.readBody server.surroundings with
  | error error =>
      have rightRead := (agrees.read_body server.surroundings).symm.trans leftRead
      rw [server.respond_unread tagger left error leftRead,
        server.respond_unread tagger right error rightRead, Server.unread, Server.unread,
        agrees.error_response]
  | ok body =>
      have rightRead := (agrees.read_body server.surroundings).symm.trans leftRead
      rw [posts.respond_read tagger body leftRead,
        (agrees.posts_to operation posts).respond_read tagger body rightRead, same,
        agrees.outcome]

end Request.AgreesButForKey

namespace Request.AsksToParse

variable {server : Server} {request : Request} (asks : request.AsksToParse server)
  (tagger : Tagger)

include asks

theorem exchange : ∃ body bytes, server.respond tagger request =
    (server.outcome request (server.routed request .parse tagger body)).exchange .parse bytes := by
  rcases asks.read with ⟨body, read⟩
  exact ⟨body.value, body.bytes, asks.posts.respond_read tagger body read⟩

theorem status_iff (outside : server.stage ≠ .development) :
    ((server.respond tagger request).response.status = 401 ↔ request.LacksKey) ∧
      ((server.respond tagger request).response.status = 403 ↔
        request.ShowsUnknownKey server.apiKeys) := by
  rcases asks.exchange tagger with ⟨body, bytes, same⟩
  have shown := server.key_status_iff request
  rw [same, ← shown.1, ← shown.2]
  exact server.parse_status_iff request outside tagger body

theorem stopped (refusal : Refusal) (guarded : (server.keyStatus request).guard = .error refusal) :
    ∃ bytes, server.respond tagger request =
      (server.failed request (.refused refusal)).exchange .parse bytes := by
  rcases asks.exchange tagger with ⟨body, bytes, same⟩
  rw [server.routed_stopped request tagger body refusal guarded] at same
  exact ⟨bytes, same⟩

/-- What is answered at the gate depends on the kind of refusal alone, and on what the client
accepts if it is a page. -/
theorem refused_alike (otherTagger : Tagger) (other : Request) (otherAsks : other.AsksToParse server)
    (reason : request.LacksKey ∧ other.LacksKey ∨
      request.ShowsUnknownKey server.apiKeys ∧ other.ShowsUnknownKey server.apiKeys)
    (accepted : server.stage = .development → request.header "accept" = other.header "accept") :
    (server.respond tagger request).response = (server.respond otherTagger other).response ∧
      (server.respond tagger request).asked = [] := by
  rcases server.guard_stops request (reason.imp And.left And.left) with ⟨refusal, guarded⟩
  have otherGuarded := guarded
  rw [server.same_guard request other reason] at otherGuarded
  rcases asks.stopped tagger refusal guarded with ⟨bytes, same⟩
  rcases otherAsks.stopped otherTagger refusal otherGuarded with ⟨otherBytes, otherSame⟩
  rw [same, otherSame, server.refused_same request other refusal accepted]
  exact ⟨rfl, rfl⟩

theorem refused_in_development (development : server.stage = .development)
    (reason : request.LacksKey ∨ request.ShowsUnknownKey server.apiKeys) :
    (server.respond tagger request).response.status = 500 := by
  rcases server.guard_stops request reason with ⟨refusal, guarded⟩
  rcases asks.stopped tagger refusal guarded with ⟨bytes, same⟩
  rw [same]
  exact server.refused_status_development request development refusal

end Request.AsksToParse

/-- Without a listed key nothing is learnt but that the key is missing or unknown, and with one
nothing is learnt of which it is. -/
theorem key_gate_leaks_nothing (surroundings : Surroundings) (environment : Environment)
    (server : Server) (keys : List Text)
    (started : Server.ofEnvironment surroundings environment = .ok server)
    (listed : environment.apiKeys = .ok keys) :
    (environment.stage ≠ .development → ∀ tagger request, request.AsksToParse server →
        ((server.respond tagger request).response.status = 401 ↔ request.LacksKey) ∧
        ((server.respond tagger request).response.status = 403 ↔ request.ShowsUnknownKey keys)) ∧
      (environment.stage = .development → ∀ tagger request, request.AsksToParse server →
        request.LacksKey ∨ request.ShowsUnknownKey keys →
        (server.respond tagger request).response.status = 500) ∧
      (∀ tagger otherTagger request other, request.AsksToParse server → other.AsksToParse server →
        request.LacksKey ∧ other.LacksKey ∨
          request.ShowsUnknownKey keys ∧ other.ShowsUnknownKey keys →
        (environment.stage = .development → request.header "accept" = other.header "accept") →
        (server.respond tagger request).response = (server.respond otherTagger other).response ∧
        (server.respond tagger request).asked = []) ∧
      (∀ tagger request other, request.PostsTo server .parse → request.AgreesButForKey other →
        request.ShowsKnownKey keys → other.ShowsKnownKey keys →
        server.respond tagger request = server.respond tagger other) ∧
      ∀ tagger request other, request.PostsTo server .standardize →
        request.AgreesButForKey other →
        server.respond tagger request = server.respond tagger other := by
  obtain ⟨_, port, sameKeys, _, same⟩ :=
    (Server.of_environment_iff surroundings environment server).1 started
  cases listed.symm.trans sameKeys
  have noneEmpty : [] ∉ server.apiKeys := by
    rw [same]
    exact environment.empty_not_key keys listed
  have stage : environment.stage = server.stage := by rw [same]
  have serverKeys : keys = server.apiKeys := by rw [same]
  rw [stage, serverKeys]
  refine ⟨?status, ?development, ?refused, ?known, ?standardize⟩
  case status =>
    intro outside tagger request asks
    exact asks.status_iff tagger outside
  case development =>
    intro development tagger request asks
    exact asks.refused_in_development tagger development
  case refused =>
    intro tagger otherTagger request other asks otherAsks
    exact asks.refused_alike tagger otherTagger other otherAsks
  case known =>
    intro tagger request other posts agrees known otherKnown
    apply agrees.respond_eq tagger .parse posts
    intro body
    have valid := Server.key_valid_of_known _ request noneEmpty known
    have otherValid := Server.key_valid_of_known _ other noneEmpty otherKnown
    simp only [Operation.route, Server.routed, valid, otherValid]
  case standardize =>
    intro tagger request other posts agrees
    apply agrees.respond_eq tagger .standardize posts
    intro body
    rfl

def Request.withKey (request : Request) (key : Text) : Request :=
  { request with
    headers := ("X-Api-Key".toList, key) ::
      request.headers.filter fun header => Text.lower header.1 ≠ "x-api-key".toList }

theorem Request.with_key_agrees (request : Request) (key other : Text) :
    (request.withKey key).AgreesButForKey (request.withKey other) := by
  constructor
  case method => rfl
  case url => rfl
  case body => rfl
  case header =>
    intro name another
    have lowered : Text.lower "X-Api-Key".toList = "x-api-key".toList := by decide
    have apart : "x-api-key".toList ≠ name.toList := by
      intro same
      exact another (String.toList_injective same).symm
    have values : (request.withKey key).headerValues name =
        (request.withKey other).headerValues name := by
      simp only [headerValues, withKey, lowered, List.filter_cons, decide_eq_false apart,
        Bool.false_eq_true, if_false]
    rw [header?, header?, values]

theorem exists_ok_of_is_ok {Error Value : Type} {result : Except Error Value}
    (isOk : result.isOk = true) : ∃ value, result = .ok value := by
  cases result with
  | ok value => exact ⟨value, rfl⟩
  | error error => cases isOk

/-- Outside of development either key of a list with a space and a comma too many is as good as the
other, and a piece of one is no key. -/
theorem both_listed_keys_answer_alike :
    let environment : Environment := fun name =>
      if name = "API_KEYS".toList then some "test-key, second key,".toList
      else if name = "NODE_ENV".toList then some "test".toList else none
    let keys := ["test-key".toList, "second key".toList]
    let request := Request.posting "/API/Parse/?from=form".toList jsonType
      (asciiBytes "\x7b\"address\": \"12 Main St\"\x7d".toList)
    ∃ server, Server.ofEnvironment .unasked environment = .ok server ∧
      environment.apiKeys = .ok keys ∧ environment.stage ≠ .development ∧
      (request.withKey "second".toList).AsksToParse server ∧
      ∀ tagger,
        (server.respond tagger (request.withKey "second".toList)).response.status = 403 ∧
        (server.respond tagger (request.withKey [])).response.status = 401 ∧
        server.respond tagger (request.withKey "test-key".toList) =
          server.respond tagger (request.withKey "second key".toList) := by
  intro environment keys request
  have listed : environment.apiKeys = .ok keys := by
    have split : Environment.keysOfList "test-key, second key,".toList = keys := by decide +kernel
    rw [← split]
    rfl
  have port : environment.tcpPort = .ok 3000 := rfl
  let server : Server := ⟨keys, .ofEnvironment Surroundings.unasked.machineName environment, 3000,
    environment.stage, .unasked⟩
  have started : Server.ofEnvironment .unasked environment = .ok server :=
    (Server.of_environment_iff _ _ _).2 ⟨keys, 3000, listed, port, rfl⟩
  have outside : environment.stage ≠ .development := by decide +kernel
  have posts (key : Text) : (request.withKey key).PostsTo server .parse := by
    have path : Route.parse.matchesPath (server.pathOf (request.withKey [])) = true := by
      decide +kernel
    exact ⟨rfl, path⟩
  have readable : ((request.withKey "second".toList).readBody .unasked).isOk = true := by
    decide +kernel
  have asks (key : Text) : (request.withKey key).AsksToParse server := by
    refine ⟨posts key, ?_⟩
    rw [(request.with_key_agrees key "second".toList).read_body]
    exact exists_ok_of_is_ok readable
  rcases key_gate_leaks_nothing .unasked environment server keys started listed with
    ⟨status, _, _, known, _⟩
  refine ⟨server, started, listed, outside, asks _, ?_⟩
  intro tagger
  refine ⟨?_, ?_, ?_⟩
  · apply (status outside tagger _ (asks _)).2.2
    exact ⟨"second".toList, by decide +kernel, by decide, by decide⟩
  · apply (status outside tagger _ (asks _)).1.2
    exact .inr (by decide +kernel)
  · apply known tagger _ _ (posts _) (request.with_key_agrees _ _)
    · exact ⟨"test-key".toList, by decide +kernel, by decide⟩
    · exact ⟨"second key".toList, by decide +kernel, by decide⟩

end Http

end PostalAddress
