import PostalAddress.Http.Surroundings
import PostalAddress.Service.Settings

/-!
What a request asks for. A route has a pattern, which matches a path in any case and with one
slash behind it, and a method. Files are looked for by their path, with escapes and dot segments
resolved; the page is the only one, in the only directory.
-/

namespace PostalAddress.Http

inductive Route where
  | health
  | debug
  | parse
  | standardize
  deriving DecidableEq, Repr

namespace Route

def all : List Route := [health, debug, parse, standardize]

def pattern : Route → Text
  | health => "/health".toList
  | debug => "/debugme".toList
  | parse => "/api/parse".toList
  | standardize => "/api/standardize".toList

def matchesPath (route : Route) (path : Text) : Bool :=
  Text.lower path = route.pattern || Text.lower path = route.pattern ++ ['/']

/-- A route that is read with GET answers HEAD as well. -/
def allows (route : Route) (request : Request) : Bool :=
  match route with
  | health | debug => request.isMethod "GET" || request.isMethod "HEAD"
  | parse | standardize => request.isMethod "POST"

def isServed (route : Route) (stage : Stage) : Bool :=
  route ≠ .debug || stage ≠ .production

def ofRequest? (stage : Stage) (path : Text) (request : Request) : Option Route :=
  all.find? fun route => route.isServed stage && route.matchesPath path && route.allows request

end Route

/-- A piece of a path: a unit that stands for itself, or a byte that is escaped. -/
inductive PathPiece where
  | unit (unit : Char)
  | byte (byte : Nat)
  deriving DecidableEq, Repr

def pathPieces? : Text → Option (List PathPiece)
  | [] => some []
  | '%' :: high :: low :: rest =>
      match hexValue? high, hexValue? low with
      | some highDigit, some lowDigit =>
          (pathPieces? rest).map fun pieces => .byte (16 * highDigit + lowDigit) :: pieces
      | _, _ => none
  | letter :: rest =>
      if letter = '%' then none else (pathPieces? rest).map fun pieces => .unit letter :: pieces

/-- Escaped bytes have to be UTF-8. -/
def spellPieces? : Utf8.Reading → List PathPiece → Option Text
  | .between, [] => some []
  | .inside .., [] => none
  | .between, .unit unit :: rest => (spellPieces? .between rest).map fun spelled => unit :: spelled
  | .inside .., .unit _ :: _ => none
  | reading, .byte byte :: rest =>
      (Utf8.next? reading byte).bind fun (read, following) =>
        (spellPieces? following rest).map fun spelled => read ++ spelled

def unescape? (path : Text) : Option Text := (pathPieces? path).bind (spellPieces? .between)

/-- Takes the segments passed so far, the last one first. A path that leaves its root has no
meaning. -/
def resolveSegments? : List Text → List Text → Option (List Text)
  | passed, [] => some passed.reverse
  | passed, segment :: segments =>
      if segment.isEmpty || segment = ['.'] then resolveSegments? passed segments
      else if segment = ['.', '.'] then
        match passed with
        | [] => none
        | _ :: parents => resolveSegments? parents segments
      else resolveSegments? (segment :: passed) segments

/-- No name of a file has a null in it. -/
def segmentsOf? (path : Text) : Option (List Text) :=
  ((unescape? path).filter fun resolved => !resolved.contains '\x00').bind fun resolved =>
    resolveSegments? [] (resolved.splitOn '/')

def isIndexPath (path : Text) : Bool :=
  match segmentsOf? path with
  | some [] => path.getLast? = some '/'
  | some [name] => name = "index.html".toList && path.getLast? ≠ some '/'
  | _ => false

def isDirectoryPath (path : Text) : Bool :=
  segmentsOf? path = some [] && path.getLast? ≠ some '/'

def Request.asksForFile (request : Request) : Bool :=
  request.isMethod "GET" || request.isMethod "HEAD"

end PostalAddress.Http
