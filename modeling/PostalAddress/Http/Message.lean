import PostalAddress.Service.Endpoint
import PostalAddress.Text.Utf8

/-!
Requests and responses as far as the service looks at them. Names of headers are compared without
regard to case, and values without the blanks around them. The path of a request is read off a plain
target here; a target of another form, as an absolute one, is read by a library.
-/

namespace PostalAddress.Http

structure Request where
  method : Text
  /-- The target as it stands in the request. -/
  url : Text
  headers : List (Text × Text)
  body : Bytes

def isHeaderBlank (letter : Char) : Bool := letter = ' ' || letter = '\t'

/-- Headers of which the first counts if there are several. -/
def singleHeaders : List String :=
  ["age", "authorization", "content-length", "content-type", "etag", "expires", "from", "host",
    "if-modified-since", "if-unmodified-since", "last-modified", "location", "max-forwards",
    "proxy-authorization", "referer", "retry-after", "server", "user-agent"]

def targetBreaks : Text := ['\t', '\n', '\x0c', '\r', ' ', '#', '\u00a0', '\ufeff']

namespace Request

def headerValues (request : Request) (name : String) : List Text :=
  (request.headers.filter fun header => Text.lower header.1 = name.toList).map fun header =>
    Text.trimWhere isHeaderBlank header.2

/-- Several headers of a name are one list, for most names. -/
def header? (request : Request) (name : String) : Option Text :=
  match request.headerValues name with
  | [] => none
  | first :: others =>
      some (if singleHeaders.contains name then first else [',', ' '].intercalate (first :: others))

def header (request : Request) (name : String) : Text := (request.header? name).getD []

def isMethod (request : Request) (name : String) : Bool := request.method = name.toList

def isPlain (request : Request) : Bool :=
  request.url.head? = some '/' && request.url.all fun letter => !targetBreaks.contains letter

def path (readPath : Text → Text) (request : Request) : Text :=
  if request.isPlain then request.url.takeWhile (· ≠ '?') else readPath request.url

end Request

/-- An error of a library brings a status of its own. -/
inductive Failure where
  | refused (refusal : Refusal)
  | foreign (status : Nat) (message? : Option Text)
  | unexpected (message : Text)
  deriving DecidableEq, Repr

namespace Failure

def status : Failure → Nat
  | refused refusal => refusal.error.errorClass.status
  | foreign status _ => status
  | unexpected _ => 500

/-- The status that is told by a handler which knows none of the service's own classes. -/
def broughtStatus : Failure → Nat
  | foreign status _ => status
  | refused _ | unexpected _ => 500

/-- An error that is no one's fault but the service's says nothing about itself. -/
def toJson : Failure → Json
  | refused refusal => refusal.error.toJson
  | foreign _ message? =>
      .ofFields ((message?.map fun message => ("message", Json.string message)).toList ++
        [("code", .ofString "bad_request")])
  | unexpected _ =>
      .ofFields [("message", .ofString "Unknown error"), ("code", .ofString "unknown_error")]

end Failure

/-- Pages are named and not spelled out. -/
inductive Body where
  | empty
  | text (text : Text)
  | json (value : Json)
  | indexPage
  /-- The piece of the page that was asked for. -/
  | indexPart
  | redirectPage
  | notFoundPage
  /-- The page that tells a developer of an error. -/
  | errorPage (mediaType : Text) (failure : Failure)

def Body.mediaType? : Body → Option Text
  | empty => none
  | text _ | notFoundPage => some "text/html; charset=utf-8".toList
  | json _ => some "application/json; charset=utf-8".toList
  | indexPage | indexPart | redirectPage => some "text/html; charset=UTF-8".toList
  | errorPage mediaType _ => some mediaType

structure Response where
  status : Nat
  body : Body
  /-- The value of the header `Cache-Control`. -/
  cacheControl : Option Text
  /-- The value of the header `Access-Control-Allow-Origin`. -/
  allowOrigin : Option Text

namespace Response

def contentType? (response : Response) : Option Text := response.body.mediaType?

def json (status : Nat) (value : Json) : Response := ⟨status, .json value, none, none⟩

end Response

end PostalAddress.Http
