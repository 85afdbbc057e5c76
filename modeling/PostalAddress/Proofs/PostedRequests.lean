import PostalAddress.Http.Application

/-!
Requests that are posted to one of the two operations. Such a request is taken by the route of the
operation and by no other, so that only the reader of bodies stands between it and its outcome.
-/

namespace PostalAddress.Http

def Surroundings.unasked : Surroundings where
  machineName := "localhost".toList
  readPath := id
  decoder? _ := none
  inflate _ _ := ⟨[], false⟩
  pageAnswer _ := .whole
  hasHealth _ := false
  errorPageType _ := "text/html; charset=utf-8".toList

def testServer : Server := ⟨["dev-key".toList], ⟨[], []⟩, 3000, .other, .unasked⟩

def asciiBytes (text : Text) : Bytes := text.map fun letter => UInt8.ofNat letter.toNat

def Request.posting (path contentType : Text) (body : Bytes) : Request :=
  ⟨"POST".toList, path,
    [("Content-Type".toList, contentType), ("Content-Length".toList, decimalText body.length)],
    body⟩

inductive Operation where
  | parse
  | standardize

def Operation.route : Operation → Route
  | parse => .parse
  | standardize => .standardize

structure Request.PostsTo (server : Server) (request : Request) (operation : Operation) : Prop where
  method : request.isMethod "POST" = true
  path : operation.route.matchesPath (server.pathOf request) = true

def Server.unread (server : Server) (request : Request) (error : BodyError) : Exchange :=
  ⟨server.errorResponse request error.failure, none, [], error.bytes, []⟩

theorem Request.is_method_unique (request : Request) (left right : String)
    (isLeft : request.isMethod left = true) (isRight : request.isMethod right = true) :
    left = right := by
  have same : left.toList = right.toList :=
    (of_decide_eq_true isLeft).symm.trans (of_decide_eq_true isRight)
  exact String.toList_injective same

theorem Route.matches_path_unique (path : Text) (left right : Route)
    (isLeft : left.matchesPath path = true) (isRight : right.matchesPath path = true) :
    left = right := by
  simp only [matchesPath, Bool.or_eq_true, decide_eq_true_eq] at isLeft isRight
  rcases isLeft with found | found <;> rw [found] at isRight <;> revert isRight <;>
    cases left <;> cases right <;> decide

namespace Request.PostsTo

variable {server : Server} {request : Request} {operation : Operation}
  (posts : request.PostsTo server operation)

include posts

theorem other_method (name : String) (other : name ≠ "POST") : request.isMethod name = false := by
  apply Bool.eq_false_iff.2
  intro isOther
  exact other (request.is_method_unique name "POST" isOther posts.method)

theorem route_eq : server.routeOf? request = some operation.route := by
  let takes (route : Route) : Bool :=
    route.isServed server.stage && route.matchesPath (server.pathOf request) && route.allows request
  have taken : takes operation.route = true := by
    have served : operation.route.isServed server.stage = true := by cases operation <;> rfl
    have allowed : operation.route.allows request = true := by
      cases operation <;> exact posts.method
    simp only [takes, served, posts.path, allowed, Bool.and_true]
  cases found : server.routeOf? request with
  | none =>
      have listed : operation.route ∈ Route.all := by cases operation <;> decide
      exact absurd taken (List.find?_eq_none.1 found operation.route listed)
  | some route =>
      have other : takes route = true := List.find?_some found
      have matched := (Bool.and_eq_true_iff.1 (Bool.and_eq_true_iff.1 other).1).2
      rw [Route.matches_path_unique _ route operation.route matched posts.path]

theorem respond_read (tagger : Tagger) (body : ReadBody)
    (read : request.readBody server.surroundings = .ok body) :
    server.respond tagger request =
      (server.outcome request (server.routed request operation.route tagger body.value)).exchange
        operation.route body.bytes := by
  have options := posts.other_method "OPTIONS" (by decide)
  rw [Server.respond, read]
  simp only [Server.respondTo, options, posts.route_eq]
  rfl

end Request.PostsTo

theorem Server.respond_unread (server : Server) (tagger : Tagger) (request : Request)
    (error : BodyError) (unread : request.readBody server.surroundings = .error error) :
    server.respond tagger request = server.unread request error := by
  rw [respond, unread]
  rfl

end PostalAddress.Http
