import PostalAddress.Http.MediaType
import PostalAddress.Http.Surroundings
import PostalAddress.Json.Reader
import PostalAddress.Text.Upper

/-!
Reading the body of a request. Only a body that is declared to be there and to be JSON is read; any
other request has the empty object for a body. The charset and the compression are looked at first,
then the size, then the text, which has to be an object or an array. That the body is as long as
declared is left to the connection.
-/

namespace PostalAddress.Http

def maxBodyBytes : Nat := 102400

inductive BodyError where
  | unsupportedCharset (charset : Text)
  | unsupportedEncoding (encoding : Text)
  | tooLarge
  /-- A body of so many bytes that is no JSON object or array. -/
  | malformed (bytes : Nat)
  deriving DecidableEq, Repr

namespace BodyError

def status : BodyError → Nat
  | unsupportedCharset _ | unsupportedEncoding _ => 415
  | tooLarge => 413
  | malformed _ => 400

def message? : BodyError → Option Text
  | unsupportedCharset charset =>
      some ("unsupported charset \"".toList ++ Text.upper charset ++ ['"'])
  | unsupportedEncoding encoding =>
      some ("unsupported content encoding \"".toList ++ encoding ++ ['"'])
  | tooLarge => some "request entity too large".toList
  | malformed _ => none

def bytes : BodyError → Nat
  | malformed bytes => bytes
  | _ => 0

def failure (error : BodyError) : Failure := .foreign error.status error.message?

end BodyError

structure ReadBody where
  value : Json
  bytes : Nat

def dropByteOrderMark : Text → Text
  | '\ufeff' :: rest => rest
  | text => text

/-- Nothing but a byte order mark is an empty body. -/
def readJsonText? (text : Text) : Option Json :=
  match dropByteOrderMark text with
  | [] => some (.object [])
  | unmarked =>
      match Json.read? unmarked with
      | some (.object fields) => some (.object fields)
      | some (.array items) => some (.array items)
      | _ => none

def Surroundings.charset? (surroundings : Surroundings) (charset : Text) : Option (Bytes → Text) :=
  if charset = "utf-8".toList then some Utf8.decode else surroundings.decoder? charset

namespace Request

def declaresBody (request : Request) : Bool :=
  (request.header? "transfer-encoding").isSome || (request.header? "content-length").isSome

def contentType? (request : Request) : Option ContentType :=
  (request.header? "content-type").bind ContentType.ofText?

def jsonType? (request : Request) : Option ContentType :=
  if request.declaresBody then request.contentType?.filter ContentType.isJson else none

def contentEncoding (request : Request) : Text :=
  match request.header "content-encoding" with
  | [] => "identity".toList
  | encoding => Text.lower encoding

def payload? (surroundings : Surroundings) (request : Request) : Option Payload :=
  if request.contentEncoding = "identity".toList then some ⟨request.body, true⟩
  else if request.contentEncoding = "gzip".toList then
    some (surroundings.inflate .gzip request.body)
  else if request.contentEncoding = "deflate".toList then
    some (surroundings.inflate .deflate request.body)
  else none

end Request

def readPayload (decode : Bytes → Text) (payload : Payload) : Except BodyError ReadBody :=
  if payload.bytes.length > maxBodyBytes then .error .tooLarge
  else if !payload.complete then .error (.malformed 0)
  else match readJsonText? (decode payload.bytes) with
    | some value => .ok ⟨value, payload.bytes.length⟩
    | none => .error (.malformed payload.bytes.length)

def Request.readJson (surroundings : Surroundings) (request : Request) (charset : Text) :
    Except BodyError ReadBody :=
  if !"utf-".toList.isPrefixOf charset then .error (.unsupportedCharset charset)
  else match request.payload? surroundings, surroundings.charset? charset with
    | none, _ => .error (.unsupportedEncoding request.contentEncoding)
    | _, none => .error (.unsupportedCharset charset)
    | some payload, some decode => readPayload decode payload

def Request.readBody (surroundings : Surroundings) (request : Request) : Except BodyError ReadBody :=
  match request.jsonType? with
  | some contentType => request.readJson surroundings contentType.charset
  | none => .ok ⟨.object [], 0⟩

end PostalAddress.Http
