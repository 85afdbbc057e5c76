import PostalAddress.Proofs.PostedRequests

/-!
The route that a response is counted under. A response of a route is counted under its pattern, and
the page under the target up to the query. Of a plain target this is the path, which stays a path of
the page when hyphens are written for bars. Two kinds of requests are counted under an address that
nothing is found under: a preflight request, which succeeds at any address, and a request for the
page whose target is no plain one.
-/

namespace PostalAddress.Http

def hyphenBar (letter : Char) : Char := if letter = '|' then '-' else letter

theorem hyphen_bars_cons (letter : Char) (rest : Text) :
    hyphenBars (letter :: rest) = hyphenBar letter :: hyphenBars rest := rfl

theorem hyphen_bar_eq_iff (letter mark : Char) (noHyphen : mark ≠ '-') (noBar : mark ≠ '|') :
    hyphenBar letter = mark ↔ letter = mark := by
  by_cases bar : letter = '|'
  · simp [hyphenBar, bar, noHyphen.symm, noBar.symm]
  · simp [hyphenBar, bar]

theorem hyphen_bar_again (letter : Char) : hyphenBar (hyphenBar letter) = hyphenBar letter := by
  by_cases bar : letter = '|'
  · rw [bar]
    rfl
  · simp [hyphenBar, bar]

theorem hyphen_bars_eq_iff (text word : Text) (noHyphen : '-' ∉ word) (noBar : '|' ∉ word) :
    hyphenBars text = word ↔ text = word := by
  induction text generalizing word with
  | nil => rfl
  | cons letter rest induction =>
      cases word with
      | nil => simp [hyphen_bars_cons]
      | cons mark others =>
          simp only [List.mem_cons, not_or] at noHyphen noBar
          rw [hyphen_bars_cons, List.cons.injEq, List.cons.injEq,
            hyphen_bar_eq_iff letter mark (Ne.symm noHyphen.1) (Ne.symm noBar.1),
            induction others noHyphen.2 noBar.2]

theorem hex_value_hyphen_bar (letter : Char) : hexValue? (hyphenBar letter) = hexValue? letter := by
  by_cases bar : letter = '|'
  · rw [bar]
    rfl
  · rw [hyphenBar, if_neg bar]

def PathPiece.hyphened : PathPiece → PathPiece
  | unit letter => .unit (hyphenBar letter)
  | byte number => .byte number

theorem path_pieces_hyphen_bars (path : Text) :
    pathPieces? (hyphenBars path) = (pathPieces? path).map (List.map PathPiece.hyphened) := by
  induction path using pathPieces?.induct with
  | case1 => rfl
  | case2 high low rest highDigit lowDigit lowFound highFound induction =>
      have percent : hyphenBar '%' = '%' := rfl
      simp only [hyphen_bars_cons, percent, pathPieces?, hex_value_hyphen_bar, highFound, lowFound,
        induction, Option.map_map]
      rfl
  | case3 high low rest unfound =>
      have percent : hyphenBar '%' = '%' := rfl
      simp only [hyphen_bars_cons, percent, pathPieces?, hex_value_hyphen_bar, Option.map_none]
  | case4 rest short =>
      rcases rest with _ | ⟨high, _ | ⟨low, others⟩⟩
      · rfl
      · rfl
      · exact absurd rfl (short high low others rfl)
  | case5 letter rest _ noEscape induction =>
      have stays : hyphenBar letter ≠ '%' :=
        fun percent => noEscape ((hyphen_bar_eq_iff letter '%' (by decide) (by decide)).1 percent)
      rw [hyphen_bars_cons, pathPieces?.eq_3 _ _ fun _ _ _ percent => absurd percent stays,
        pathPieces?.eq_3 _ _ fun _ _ _ percent => absurd percent noEscape, if_neg stays,
        if_neg noEscape, induction, Option.map_map, Option.map_map]
      rfl

theorem map_append_hyphen_bars (front : Text) (found : Option Text) :
    (found.map fun spelled => front ++ spelled).map hyphenBars =
      (found.map hyphenBars).map fun spelled => hyphenBars front ++ spelled := by
  cases found <;> simp [hyphenBars]

theorem spell_pieces_hyphened (reading : Utf8.Reading) (pieces : List PathPiece) :
    (spellPieces? reading (pieces.map PathPiece.hyphened)).map hyphenBars =
      (spellPieces? reading pieces).map hyphenBars := by
  induction pieces generalizing reading with
  | nil => rfl
  | cons piece rest induction =>
      cases piece with
      | unit letter =>
          cases reading with
          | inside => rfl
          | between =>
              have again : hyphenBars [hyphenBar letter] = hyphenBars [letter] :=
                congrArg List.singleton (hyphen_bar_again letter)
              have hyphened := map_append_hyphen_bars [hyphenBar letter]
                (spellPieces? .between (rest.map PathPiece.hyphened))
              have plain := map_append_hyphen_bars [letter] (spellPieces? .between rest)
              rw [again, induction] at hyphened
              exact hyphened.trans plain.symm
      | byte number =>
          simp only [List.map_cons, PathPiece.hyphened, spellPieces?]
          cases Utf8.next? reading number with
          | none => rfl
          | some progress =>
              rw [Option.bind_some, Option.bind_some, map_append_hyphen_bars,
                map_append_hyphen_bars, induction]

/-- An escape holds no bar, but it may stand for one, so hyphens are written again behind it. -/
theorem unescape_hyphen_bars (path : Text) :
    (unescape? (hyphenBars path)).map hyphenBars = (unescape? path).map hyphenBars := by
  rw [unescape?, path_pieces_hyphen_bars, unescape?]
  cases pathPieces? path with
  | none => rfl
  | some pieces => exact spell_pieces_hyphened .between pieces

theorem split_hyphen_bars (text : Text) :
    (hyphenBars text).splitOn '/' = (text.splitOn '/').map hyphenBars := by
  induction text with
  | nil => rfl
  | cons letter rest induction =>
      have slash := hyphen_bar_eq_iff letter '/' (by decide) (by decide)
      rw [hyphen_bars_cons, List.splitOn_cons_eq_if_modifyHead, List.splitOn_cons_eq_if_modifyHead,
        induction]
      simp only [beq_iff_eq, slash]
      split
      case isTrue => rfl
      case isFalse => cases rest.splitOn '/' <;> rfl

theorem resolve_hyphen_bars (passed segments : List Text) :
    resolveSegments? (passed.map hyphenBars) (segments.map hyphenBars) =
      (resolveSegments? passed segments).map (List.map hyphenBars) := by
  induction segments generalizing passed with
  | nil => simp [resolveSegments?]
  | cons segment segments induction =>
      have dot : hyphenBars segment = ['.'] ↔ segment = ['.'] :=
        hyphen_bars_eq_iff segment _ (by decide) (by decide)
      have dots : hyphenBars segment = ['.', '.'] ↔ segment = ['.', '.'] :=
        hyphen_bars_eq_iff segment _ (by decide) (by decide)
      have empty : (hyphenBars segment).isEmpty = segment.isEmpty := List.isEmpty_map
      rw [List.map_cons, resolveSegments?.eq_def, resolveSegments?.eq_def passed]
      simp only [empty, dot, dots]
      split
      case isTrue => exact induction passed
      case isFalse =>
        split
        case isTrue =>
          cases passed with
          | nil => rfl
          | cons parent parents => exact induction parents
        case isFalse => exact induction (segment :: passed)

theorem is_index_path_iff (path : Text) :
    isIndexPath path = true ↔
      segmentsOf? path = some [] ∧ path.getLast? = some '/' ∨
        segmentsOf? path = some ["index.html".toList] ∧ path.getLast? ≠ some '/' := by
  rw [isIndexPath]
  generalize "index.html".toList = page
  cases segmentsOf? path with
  | none => simp
  | some segments =>
      cases segments with
      | nil => simp
      | cons name others =>
          cases others with
          | nil => simp
          | cons next rest => simp

theorem segments_of_hyphen_bars (path : Text) :
    (segmentsOf? (hyphenBars path)).map (List.map hyphenBars) =
      (segmentsOf? path).map (List.map hyphenBars) := by
  have null (text : Text) : (hyphenBars text).contains '\x00' = text.contains '\x00' := by
    have letters (letter : Char) := hyphen_bar_eq_iff letter '\x00' (by decide) (by decide)
    have members : '\x00' ∈ text.map hyphenBar ↔ '\x00' ∈ text := by simp [letters]
    rw [List.contains_eq_mem, List.contains_eq_mem, decide_eq_decide]
    exact members
  have resolved (text : Text) : (segmentsOf? text).map (List.map hyphenBars) =
      (((unescape? text).map hyphenBars).filter fun given => !given.contains '\x00').bind
        fun given => resolveSegments? [] (given.splitOn '/') := by
    rw [segmentsOf?]
    cases unescape? text with
    | none => rfl
    | some given =>
        have split := resolve_hyphen_bars [] (given.splitOn '/')
        rw [← split_hyphen_bars] at split
        simp only [Option.map_some, Option.filter_some, null]
        split
        case isTrue => exact split.symm
        case isFalse => rfl
  rw [resolved, resolved, unescape_hyphen_bars]

theorem hyphen_texts_eq_iff (texts words : List Text)
    (unmarked : ∀ word ∈ words, '-' ∉ word ∧ '|' ∉ word) :
    texts.map hyphenBars = words ↔ texts = words := by
  induction texts generalizing words with
  | nil => rfl
  | cons text rest induction =>
      cases words with
      | nil => simp
      | cons word others =>
          have first := unmarked word List.mem_cons_self
          rw [List.map_cons, List.cons.injEq, List.cons.injEq,
            hyphen_bars_eq_iff text word first.1 first.2,
            induction others fun other member => unmarked other (.tail _ member)]

theorem segments_hyphen_bars_iff (path : Text) (segments : List Text)
    (unmarked : ∀ segment ∈ segments, '-' ∉ segment ∧ '|' ∉ segment) :
    segmentsOf? (hyphenBars path) = some segments ↔ segmentsOf? path = some segments := by
  have hyphened (found : Option (List Text)) :
      found.map (List.map hyphenBars) = some segments ↔ found = some segments := by
    cases found with
    | none => simp
    | some texts =>
        rw [Option.map_some, Option.some.injEq, Option.some.injEq,
          hyphen_texts_eq_iff texts segments unmarked]
  rw [← hyphened, segments_of_hyphen_bars, hyphened]

/-- A path of the page is one also with hyphens for bars. -/
theorem is_index_path_hyphen_bars (path : Text) :
    isIndexPath (hyphenBars path) = true ↔ isIndexPath path = true := by
  have last : (hyphenBars path).getLast? = some '/' ↔ path.getLast? = some '/' := by
    have letters (letter : Char) := hyphen_bar_eq_iff letter '/' (by decide) (by decide)
    have mapped : (hyphenBars path).getLast? = path.getLast?.map hyphenBar := List.getLast?_map
    rw [mapped]
    cases path.getLast? with
    | none => simp
    | some letter => rw [Option.map_some, Option.some.injEq, Option.some.injEq, letters]
  simp only [is_index_path_iff, ne_eq, last, segments_hyphen_bars_iff path [] (by simp),
    segments_hyphen_bars_iff path ["index.html".toList] (by decide)]

theorem Count.route_tag_iff (count : Count) (value : Text) :
    tag "route" value ∈ count.tags ↔ count.route = value ∧ value ≠ [] := by
  have others (other : Text) : tag "route" value ≠ tag "method" other ∧
      tag "route" value ≠ tag "response_code" other ∧ tag "route" value ≠ tag "internal" other := by
    simp [tag]
  have same (other : Text) : tag "route" value = tag "route" other ↔ value = other := by
    simp [tag]
  cases given : count.route with
  | nil => simp [tags, given, others]
  | cons letter rest =>
      have listed : tag "route" value ∈ count.tags ↔ value = count.route := by
        simp [tags, given, others, same]
      rw [listed, given, eq_comm]
      constructor
      · intro equal
        exact ⟨equal, equal ▸ List.cons_ne_nil letter rest⟩
      · intro both
        exact both.1

namespace Request

def countedAddress (request : Request) : Text := hyphenBars (request.url.takeWhile (· ≠ '?'))

end Request

theorem Route.hyphen_bars_pattern (route : Route) : hyphenBars route.pattern = route.pattern := by
  cases route <;> decide

namespace Server

variable (server : Server) (tagger : Tagger) (request : Request)

def sendsPage : Bool :=
  request.asksForFile && isIndexPath (server.pathOf request) &&
    (server.surroundings.pageAnswer request = .whole ||
      server.surroundings.pageAnswer request = .part)

/-- Preflight requests and those for the page are answered without a route. -/
def countedRoute : Text :=
  if request.isMethod "OPTIONS" then request.countedAddress
  else match server.routeOf? request with
    | some route => route.pattern
    | none => if server.sendsPage request then request.countedAddress else []

/-- What no route answers succeeds only as the page, and does not fail within the service. -/
theorem unrouted_status :
    let status := (server.unroutedResponse request).status
    (status < 300 ∨ 500 ≤ status) ↔ server.sendsPage request = true := by
  have foreign (status : Nat) (message : Option Text) :
      (server.errorResponse request (.foreign status message)).status = status := by
    unfold errorResponse
    split <;> rfl
  simp only [unroutedResponse, sendsPage]
  by_cases asked : (request.asksForFile && isIndexPath (server.pathOf request)) = true
  · rw [if_pos asked, asked, pageResponse]
    cases server.surroundings.pageAnswer request <;> simp [foreign]
  · rw [if_neg asked]
    split <;> simp [asked]

theorem respond_to_counted (body : ReadBody) :
    ((server.respondTo tagger request body).count request).route = server.countedRoute request := by
  unfold respondTo countedRoute
  split
  case isTrue => rfl
  case isFalse =>
    cases server.routeOf? request with
    | some route => exact route.hyphen_bars_pattern
    | none =>
        let status := (server.unroutedResponse request).status
        have sends : (status < 300 || 500 ≤ status) = server.sendsPage request := by
          rw [Bool.eq_iff_iff, Bool.or_eq_true, decide_eq_true_eq, decide_eq_true_eq]
          exact server.unrouted_status request
        change hyphenBars (if (status < 300 || 500 ≤ status) = true then _ else []) = _
        rw [sends]
        simp only
        split <;> rfl

theorem route_tag_iff (value : Text) :
    tag "route" value ∈ ((server.respond tagger request).count request).tags ↔
      value ≠ [] ∧ (∃ body, request.readBody server.surroundings = .ok body) ∧
        server.countedRoute request = value := by
  rw [Count.route_tag_iff]
  cases read : request.readBody server.surroundings with
  | error error =>
      have uncounted : ((server.respond tagger request).count request).route = [] := by
        rw [server.respond_unread tagger request error read, unread, errorResponse]
        split <;> cases error <;> rfl
      rw [uncounted]
      constructor
      · intro both
        exact absurd both.1.symm both.2
      · intro counted
        rcases counted.2.1 with ⟨body, impossible⟩
        cases impossible
  | ok body =>
      have counted : ((server.respond tagger request).count request).route =
          server.countedRoute request := by
        rw [respond, read]
        exact server.respond_to_counted tagger request body
      rw [counted]
      constructor
      · intro both
        exact ⟨both.2, ⟨body, rfl⟩, both.1⟩
      · intro all
        exact ⟨all.2.2, all.1⟩

end Server

/-- Something is found under the address: a route or the page. -/
def IsKnownAddress (address : Text) : Prop :=
  (∃ route ∈ Route.all, address = route.pattern) ∨ isIndexPath address = true

instance (address : Text) : Decidable (IsKnownAddress address) :=
  inferInstanceAs (Decidable (_ ∨ _))

/-- A request that succeeds without a route and is counted under an address that nothing is found
under. -/
structure Request.LeavesStray (server : Server) (request : Request) : Prop where
  read : ∃ body, request.readBody server.surroundings = .ok body
  unrouted : request.isMethod "OPTIONS" = true ∨
    server.routeOf? request = none ∧ server.sendsPage request = true
  given : request.countedAddress ≠ []
  unknown : ¬IsKnownAddress request.countedAddress

namespace Request.LeavesStray

variable {server : Server} {request : Request} (stray : request.LeavesStray server)

include stray

theorem counted : server.countedRoute request = request.countedAddress := by
  unfold Server.countedRoute
  split
  case isTrue => rfl
  case isFalse noOptions =>
    rcases stray.unrouted with options | ⟨unrouted, sends⟩
    · exact absurd options noOptions
    · simp [unrouted, sends]

/-- The page is found by the path, and this is all that is counted of a plain target. -/
theorem preflight_or_no_plain : request.isMethod "OPTIONS" = true ∨ request.isPlain = false := by
  rcases stray.unrouted with options | ⟨_, sends⟩
  · exact .inl options
  · cases plain : request.isPlain with
    | false => exact .inr rfl
    | true =>
        have path : server.pathOf request = request.url.takeWhile (· ≠ '?') := if_pos plain
        have found : isIndexPath (server.pathOf request) = true :=
          (Bool.and_eq_true_iff.1 (Bool.and_eq_true_iff.1 sends).1).2
        rw [path, ← is_index_path_hyphen_bars] at found
        exact absurd (.inr found) stray.unknown

end Request.LeavesStray

/-- Every route that a response is counted under is known, unless the request leaves a stray one. -/
theorem route_tags_known_iff (server : Server) (tagger : Tagger) (request : Request) :
    ((∀ value, tag "route" value ∈ ((server.respond tagger request).count request).tags →
        IsKnownAddress value) ↔ ¬request.LeavesStray server) ∧
      (request.LeavesStray server →
        request.isMethod "OPTIONS" = true ∨ request.isPlain = false) := by
  refine ⟨⟨?onlyStrays, ?noStrays⟩, fun stray => stray.preflight_or_no_plain⟩
  case onlyStrays =>
    intro known stray
    apply stray.unknown
    apply known
    exact (server.route_tag_iff tagger request _).2 ⟨stray.given, stray.read, stray.counted⟩
  case noStrays =>
    intro noStray value tagged
    rcases (server.route_tag_iff tagger request value).1 tagged with ⟨given, read, counted⟩
    apply Decidable.byContradiction
    intro unknown
    unfold Server.countedRoute at counted
    split at counted
    case isTrue options =>
      rw [← counted] at given unknown
      exact noStray ⟨read, .inl options, given, unknown⟩
    case isFalse =>
      cases unrouted : server.routeOf? request with
      | some route =>
          simp only [unrouted] at counted
          have listed : route ∈ Route.all := by cases route <;> decide
          exact unknown (.inl ⟨route, listed, counted.symm⟩)
      | none =>
          simp only [unrouted] at counted
          split at counted
          case isTrue sends =>
            rw [← counted] at given unknown
            exact noStray ⟨read, .inr ⟨unrouted, sends⟩, given, unknown⟩
          case isFalse => exact given counted.symm

/-- A preflight request succeeds also where nothing is. -/
theorem stray_preflight_counted :
    let tagger := Tagger.fixed (.parsed .streetAddress [])
    let request : Request := ⟨"OPTIONS".toList, "/no/such/page".toList, [], []⟩
    tag "route" "/no/such/page".toList ∈
        ((testServer.respond tagger request).count request).tags ∧
      ¬IsKnownAddress "/no/such/page".toList := by
  decide +kernel

end PostalAddress.Http
