import PostalAddress.Http.Message

/-!
What the service takes from outside: the name of the machine, and libraries of which it uses one
answer each. Nothing is assumed of them.
-/

namespace PostalAddress.Http

/-- What comes out of a compressed body, and whether it ends as it should. -/
structure Payload where
  bytes : Bytes
  complete : Bool

inductive Compression where
  | gzip
  | deflate
  deriving DecidableEq, Repr

/-- How a request for the page is answered. What the client has of it already is compared with the
file, and a part of it may be asked for. -/
inductive PageAnswer where
  | whole
  | part
  | unchanged
  | outdated
  | outOfRange
  deriving DecidableEq, Repr

structure Surroundings where
  machineName : Text
  /-- The path of a target that is no plain one. -/
  readPath : Text → Text
  /-- The reader of bytes in a charset other than UTF-8, if the charset is known. -/
  decoder? : Text → Option (Bytes → Text)
  inflate : Compression → Bytes → Payload
  pageAnswer : Request → PageAnswer
  /-- Whether the client has what the route for health answers. -/
  hasHealth : Request → Bool
  /-- The type of the page for an error, by what the client accepts. -/
  errorPageType : Text → Text

end PostalAddress.Http
