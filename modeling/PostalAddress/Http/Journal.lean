import PostalAddress.Http.Message
import PostalAddress.Service.Settings

/-!
What the service notes about a request: entries for its log, and one line that counts the response
with tags for route, method and status. The tag of the route bears a hyphen for each bar, since a
bar parts the fields of the line. Which entries are written depends on the level that the log is set
to, and neither the time of an entry nor the stack of an error is part of one.
-/

namespace PostalAddress.Http

inductive LogLevel where
  | error
  | info
  | debug
  deriving DecidableEq, Repr

def LogLevel.name : LogLevel → Text
  | error => "error".toList
  | info => "info".toList
  | debug => "debug".toList

structure LogEntry where
  level : LogLevel
  message : Text
  deriving DecidableEq, Repr

def LogEntry.line (entry : LogEntry) : Text :=
  "[address-standardizer] ".toList ++ entry.level.name ++ ':' :: ' ' :: entry.message

def answeredEntry (request : Request) (status bytes : Nat) : LogEntry :=
  ⟨.debug, decimalText status ++ ' ' :: request.method ++ ' ' :: request.url ++
    (if bytes = 0 then [] else " (".toList ++ decimalText bytes ++ " bytes)".toList)⟩

def ambiguousEntry (address warning : Text) : LogEntry :=
  ⟨.info, "Ambiguous parse of \"".toList ++ address ++ "\": ".toList ++ warning⟩

def unexpectedEntry (message : Text) : LogEntry := ⟨.error, "Error: ".toList ++ message⟩

structure Host where
  name : Text
  platform : Text

def Host.ofEnvironment (machineName : Text) (environment : Environment) : Host :=
  ⟨environment.instanceName machineName, environment.platform⟩

def tag (name : String) (value : Text) : Text := name.toList ++ ':' :: value

def hyphenBars (text : Text) : Text := text.map fun letter => if letter = '|' then '-' else letter

/-- The service's own clients are told by how their agent is named. -/
def isInternal (request : Request) : Bool :=
  "address-standardizer".toList.isPrefixOf (request.header "user-agent")

structure Count where
  route : Text
  method : Text
  status : Nat
  internal : Bool
  deriving DecidableEq, Repr

namespace Count

/-- Without a route only a success or a failure within the service has its address for a tag, so
that addresses of nothing leave none. -/
def ofResponse (request : Request) (pattern? : Option Text) (status : Nat) : Count :=
  let route := match pattern? with
    | some pattern => pattern
    | none =>
        if status < 300 || 500 ≤ status then request.url.takeWhile (· ≠ '?') else []
  ⟨hyphenBars route, Text.lower request.method, status, isInternal request⟩

def tags (count : Count) : List Text :=
  (if count.route.isEmpty then [] else [tag "route" count.route]) ++
    [tag "method" count.method, tag "response_code" (decimalText count.status),
      tag "internal" (if count.internal then "true" else "false").toList]

def line (host : Host) (count : Count) : Text :=
  "node.express.router.response_total:1|c|#".toList ++
    [','].intercalate
      (tag "instance" host.name ::
        ((Text.present? host.platform).map (tag "platform")).toList ++ count.tags)

end Count

end PostalAddress.Http
