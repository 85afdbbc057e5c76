import PostalAddress.Http.Journal
import PostalAddress.Http.RequestBody
import PostalAddress.Http.Route

/-!
The service behind HTTP. A request passes the reader of bodies, the answer to preflight requests,
the key, the routes that are read, the page, and the two operations; what nothing answers is not
found. Each request is answered on its own.

Of a response there are the status, the body and the headers that the service sets itself. Left out
are what libraries add to a response (its compression, its length, date and tags, the headers of a
preflight answer beyond the origin), the words of the pages, the reports to a service for errors, and
requests that never get to the routes because their target has no path or they break off.
-/

namespace PostalAddress.Http

structure Server where
  apiKeys : List Text
  host : Host
  port : Nat
  stage : Stage
  surroundings : Surroundings

/-- The keys are read before the port. -/
def Server.ofEnvironment (surroundings : Surroundings) (environment : Environment) :
    Except SettingError Server := do
  let apiKeys ← environment.apiKeys
  let port ← environment.tcpPort
  .ok ⟨apiKeys, .ofEnvironment surroundings.machineName environment, port, environment.stage,
    surroundings⟩

/-- What a request is answered with, and what is noted about it on the way. -/
structure Exchange where
  response : Response
  /-- The pattern of the route that took the request. -/
  pattern? : Option Text
  /-- What was logged before the request was answered. -/
  entries : List LogEntry
  /-- How large the body was, if it was read. -/
  bytes : Nat
  /-- The texts that the locator was asked about. -/
  asked : List Text

def errorBody (error : Json) : Json := .ofFields [("error", error)]

def notFoundError : Json :=
  .ofFields [("message", .ofString "Not Found"), ("code", .ofString "not_found")]

def debugMessage : Text := "This is an error from a route handler".toList

/-- Only a response to GET may be kept, by one reader alone if the reader showed a key. -/
def cacheControl? (isGet authorized : Bool) (seconds : Int) : Option Text :=
  if isGet then
    some ((if authorized then "private" else "public").toList ++ ", max-age=".toList ++
      integerText seconds)
  else none

def pageSeconds : Int := 600

inductive KeyStatus where
  | missing
  | unknown
  | valid
  deriving DecidableEq, Repr

def KeyStatus.guard : KeyStatus → Except Refusal Unit
  | missing => .error .missingKey
  | unknown => .error .unknownKey
  | valid => .ok ()

structure Outcome where
  response : Response
  entries : List LogEntry
  asked : List Text

namespace Outcome

def ofParsed (parsed : Consulted Parsed) : Outcome :=
  ⟨.json 200 parsed.value.toJson,
    match parsed.value.classification with
    | .ambiguous doubt => [ambiguousEntry parsed.value.input doubt.warning]
    | _ => [],
    parsed.asked⟩

def ofStandardized (address : Consulted StandardAddress) : Outcome :=
  ⟨.json 200 address.value.toJson, [], address.asked⟩

def parse (keyStatus : KeyStatus) (tagger : Tagger) (body : Json) : Except Refusal Outcome :=
  keyStatus.guard.bind fun _ => (answerParse tagger body).map ofParsed

def standardize (tagger : Tagger) (body : Json) : Except Refusal Outcome :=
  (answerStandardize tagger body).map ofStandardized

end Outcome

namespace Server

variable (server : Server) (request : Request)

def keyStatus : KeyStatus :=
  let key := request.header "x-api-key"
  if key.isEmpty then .missing else if server.apiKeys.contains key then .valid else .unknown

def pathOf : Text := request.path server.surroundings.readPath

def routeOf? : Option Route := Route.ofRequest? server.stage (server.pathOf request) request

/-- How an error goes out. In development it is left to a handler that makes a page of it. -/
def errorResponse (failure : Failure) : Response :=
  if server.stage = .development then
    ⟨failure.broughtStatus,
      .errorPage (server.surroundings.errorPageType (request.header "accept")) failure, none, none⟩
  else .json failure.status (errorBody failure.toJson)

def failed (failure : Failure) : Outcome :=
  ⟨server.errorResponse request failure,
    match failure with
    | .unexpected message => if server.stage = .development then [] else [unexpectedEntry message]
    | _ => [],
    []⟩

def outcome : Except Failure Outcome → Outcome
  | .ok outcome => outcome
  | .error failure => server.failed request failure

def routed (route : Route) (tagger : Tagger) (body : Json) : Except Failure Outcome :=
  match route with
  | .health =>
      .ok ⟨if server.surroundings.hasHealth request then ⟨304, .empty, none, none⟩
        else ⟨200, .text "OK!".toList, none, none⟩, [], []⟩
  | .debug => .error (.unexpected debugMessage)
  | .parse => (Outcome.parse (server.keyStatus request) tagger body).mapError .refused
  | .standardize => (Outcome.standardize tagger body).mapError .refused

def pageResponse (cacheControl : Option Text) : Response :=
  match server.surroundings.pageAnswer request with
  | .whole => ⟨200, .indexPage, cacheControl, none⟩
  | .part => ⟨206, .indexPart, cacheControl, none⟩
  | .unchanged => ⟨304, .empty, cacheControl, none⟩
  | .outdated =>
      { server.errorResponse request (.foreign 412 (some "Precondition Failed".toList)) with
        cacheControl := cacheControl }
  | .outOfRange =>
      { server.errorResponse request (.foreign 416 (some "Range Not Satisfiable".toList)) with
        cacheControl := cacheControl }

/-- The page, the way to it, or that there is nothing, in words that the client accepts. -/
def unroutedResponse : Response :=
  let path := server.pathOf request
  let cacheControl := cacheControl? (request.isMethod "GET")
    (server.keyStatus request = .valid) pageSeconds
  if request.asksForFile && isIndexPath path then
    server.pageResponse request
      (if request.isMethod "HEAD" then some "public, max-age=0".toList else cacheControl)
  else if request.asksForFile && isDirectoryPath path then
    ⟨301, .redirectPage, cacheControl, none⟩
  else
    ⟨404,
      if acceptsJson (request.header "accept") then .json (errorBody notFoundError)
      else .notFoundPage,
      cacheControl, none⟩

end Server

def allowAnyOrigin (response : Response) : Response :=
  { response with allowOrigin := some ['*'] }

def Outcome.exchange (outcome : Outcome) (route : Route) (bytes : Nat) : Exchange :=
  ⟨allowAnyOrigin outcome.response, some route.pattern, outcome.entries, bytes, outcome.asked⟩

namespace Server

def respondTo (server : Server) (tagger : Tagger) (request : Request) (body : ReadBody) :
    Exchange :=
  if request.isMethod "OPTIONS" then
    ⟨allowAnyOrigin ⟨204, .empty, none, none⟩, none, [], body.bytes, []⟩
  else match server.routeOf? request with
    | some route =>
        (server.outcome request (server.routed request route tagger body.value)).exchange route
          body.bytes
    | none => ⟨allowAnyOrigin (server.unroutedResponse request), none, [], body.bytes, []⟩

def respond (server : Server) (tagger : Tagger) (request : Request) : Exchange :=
  match request.readBody server.surroundings with
  | .ok body => server.respondTo tagger request body
  | .error error =>
      let outcome := server.failed request error.failure
      ⟨outcome.response, none, outcome.entries, error.bytes, outcome.asked⟩

end Server

namespace Exchange

/-- A response to HEAD is described and not sent. -/
def sentBody (request : Request) (exchange : Exchange) : Body :=
  if request.isMethod "HEAD" then .empty else exchange.response.body

def log (request : Request) (exchange : Exchange) : List LogEntry :=
  exchange.entries ++ [answeredEntry request exchange.response.status exchange.bytes]

def count (request : Request) (exchange : Exchange) : Count :=
  .ofResponse request exchange.pattern? exchange.response.status

end Exchange

end PostalAddress.Http
