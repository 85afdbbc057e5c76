import PostalAddress.Proofs.KeyGate
import PostalAddress.Proofs.StreetWords

/-!
The keys that a service is started with. They are the pieces of the list that are not blank, trimmed,
so each of them can be shown in a header. Whether there is a list is asked before it is read, so a
list without a key counts as one, in production too, and the service then starts and lets no one in.
-/

namespace PostalAddress

namespace Environment

/-- A key can be shown in a header and listed between commas as it is. -/
structure IsUsableKey (key : Text) : Prop where
  given : key ≠ []
  first : ∀ letter ∈ key.head?, isBlank letter = false
  last : ∀ letter ∈ key.getLast?, isBlank letter = false
  noComma : ',' ∉ key

/-- Some piece of the list is not blank. -/
def NamesKey (list : Text) : Prop := ∃ piece ∈ list.splitOn ',', Text.isAllBlank piece = false

def InProduction (environment : Environment) : Prop :=
  environment.value "NODE_ENV" = "production".toList

/-- No list of keys is accepted that is empty, and one that names no key is refused in production. -/
structure KeysGuarded (environment : Environment) : Prop where
  some_key : ∀ keys, environment.apiKeys = .ok keys → keys ≠ []
  refused : environment.InProduction → ¬NamesKey (environment.value "API_KEYS") →
    ∃ error, environment.apiKeys = .error error

theorem usable_key_of_piece (list piece : Text) (listed : piece ∈ list.splitOn ',')
    (given : piece.trim ≠ []) : IsUsableKey piece.trim where
  given := given
  first := Text.head_trim_where isBlank piece
  last := Text.last_trim_where isBlank piece
  noComma member := Text.split_on_no_separator ',' list piece listed
    ((Text.trim_where_within isBlank piece).subset member)

theorem keys_of_list_usable (list : Text) : ∀ key ∈ keysOfList list, IsUsableKey key := by
  intro key member
  obtain ⟨given, piece, listed, rfl⟩ := (mem_keys_of_list_iff list key).1 member
  exact usable_key_of_piece list piece listed given

theorem keys_of_list_eq_nil_iff (list : Text) : keysOfList list = [] ↔ ¬NamesKey list := by
  rw [List.eq_nil_iff_forall_not_mem, NamesKey]
  constructor
  · rintro none ⟨piece, listed, solid⟩
    apply none (Text.trim piece)
    refine (mem_keys_of_list_iff list _).2 ⟨?_, piece, listed, rfl⟩
    rw [ne_eq, Text.trim_eq_nil_iff, solid]
    exact Bool.false_ne_true
  · intro unnamed key member
    obtain ⟨given, piece, listed, rfl⟩ := (mem_keys_of_list_iff list key).1 member
    refine unnamed ⟨piece, listed, ?_⟩
    rwa [ne_eq, Text.trim_eq_nil_iff, Bool.not_eq_true] at given

theorem names_key_iff (list : Text) :
    NamesKey list ↔ ∃ letter ∈ list, letter ≠ ',' ∧ isBlank letter = false := by
  have letters := Text.split_on_flatten (· == ',') list
  constructor
  · rintro ⟨piece, listed, solid⟩
    obtain ⟨letter, inside, shown⟩ := List.all_eq_false.1 solid
    have kept : letter ∈ list.filter fun other => !(other == ',') :=
      letters ▸ List.mem_flatten.2 ⟨piece, listed, inside⟩
    obtain ⟨member, apart⟩ := List.mem_filter.1 kept
    exact ⟨letter, member, by simpa using apart, by simpa using shown⟩
  · rintro ⟨letter, member, apart, shown⟩
    have kept : letter ∈ (list.splitOnP (· == ',')).flatten :=
      letters ▸ List.mem_filter.2 ⟨member, by simpa using apart⟩
    obtain ⟨piece, listed, inside⟩ := List.mem_flatten.1 kept
    exact ⟨piece, listed, Text.solid_of_letter piece letter inside shown⟩

variable (environment : Environment)

theorem api_keys_of_list (given : environment.value "API_KEYS" ≠ []) :
    environment.apiKeys = .ok (keysOfList (environment.value "API_KEYS")) := by
  rw [apiKeys, if_pos ((environment.has_iff "API_KEYS").2 given)]

theorem api_keys_without_list (missing : environment.value "API_KEYS" = []) :
    environment.InProduction ∧ environment.apiKeys = .error .missingKeys ∨
      ¬environment.InProduction ∧ environment.apiKeys = .ok ["dev-key".toList] := by
  rw [apiKeys, if_neg fun has => (environment.has_iff "API_KEYS").1 has missing]
  by_cases production : environment.InProduction
  · exact .inl ⟨production, if_pos production⟩
  · exact .inr ⟨production, if_neg production⟩

theorem api_keys_usable (keys : List Text) (listed : environment.apiKeys = .ok keys) :
    ∀ key ∈ keys, IsUsableKey key := by
  by_cases given : environment.value "API_KEYS" = []
  case neg =>
    rw [environment.api_keys_of_list given] at listed
    cases listed
    exact keys_of_list_usable _
  case pos =>
    rcases environment.api_keys_without_list given with ⟨_, same⟩ | ⟨_, same⟩
    · rw [same] at listed
      cases listed
    · rw [same] at listed
      cases listed
      intro key member
      rw [List.mem_singleton.1 member]
      constructor
      case given => decide
      case first => rintro letter ⟨⟩; rfl
      case last => rintro letter ⟨⟩; rfl
      case noComma => decide

theorem api_keys_eq_ok_nil_iff :
    environment.apiKeys = .ok [] ↔
      environment.value "API_KEYS" ≠ [] ∧ ¬NamesKey (environment.value "API_KEYS") := by
  by_cases given : environment.value "API_KEYS" = []
  case pos =>
    rcases environment.api_keys_without_list given with ⟨_, same⟩ | ⟨_, same⟩ <;>
      simp [same, given]
  case neg =>
    rw [environment.api_keys_of_list given, ← keys_of_list_eq_nil_iff]
    simp [given]

theorem keys_guarded_iff :
    environment.KeysGuarded ↔
      environment.value "API_KEYS" = [] ∨ NamesKey (environment.value "API_KEYS") := by
  constructor
  · intro guarded
    by_contra unguarded
    have nothing := environment.api_keys_eq_ok_nil_iff.2 (not_or.1 unguarded)
    exact guarded.some_key [] nothing rfl
  · intro guarded
    constructor
    case some_key =>
      rintro keys listed rfl
      exact not_or.2 (environment.api_keys_eq_ok_nil_iff.1 listed) guarded
    case refused =>
      intro production unnamed
      rcases guarded with missing | named
      · rcases environment.api_keys_without_list missing with ⟨_, same⟩ | ⟨outside, _⟩
        · exact ⟨_, same⟩
        · exact absurd production outside
      · exact absurd named unnamed

end Environment

namespace Http

open Environment (IsUsableKey NamesKey)

theorem header_blank (letter : Char) (solid : isBlank letter = false) :
    isHeaderBlank letter = false := by
  by_contra blank
  simp only [isHeaderBlank, Bool.not_eq_false, Bool.or_eq_true, decide_eq_true_eq] at blank
  rcases blank with rfl | rfl <;> cases solid

theorem Request.with_key_shows (request : Request) (key : Text) (usable : IsUsableKey key) :
    (request.withKey key).header? "x-api-key" = some key := by
  have named : Text.lower "X-Api-Key".toList = "x-api-key".toList := by decide
  have whole : Text.trimWhere isHeaderBlank key = key := by
    apply Text.trim_where_of_ends
    · exact fun letter first => header_blank letter (usable.first letter first)
    · exact fun letter last => header_blank letter (usable.last letter last)
  have single : singleHeaders.contains "x-api-key" = false := by decide
  have others : (request.headers.filter fun header =>
      Text.lower header.1 ≠ "x-api-key".toList).filter
        (fun header => Text.lower header.1 = "x-api-key".toList) = [] := by
    rw [List.filter_eq_nil_iff]
    intro header kept
    rw [List.mem_filter] at kept
    simpa only [decide_eq_true_eq] using kept.2
  have alone : (request.withKey key).headerValues "x-api-key" = [key] := by
    simp only [headerValues, withKey, List.filter_cons, named, decide_true, if_true, others,
      List.map_cons, List.map_nil, whole]
  rw [header?, alone]
  simp only [single, Bool.false_eq_true, if_false, List.intercalate_singleton]

/-- A service whose keys can be shown lets someone in exactly if it has one. -/
theorem Server.lets_in_iff (server : Server)
    (usable : ∀ key ∈ server.apiKeys, IsUsableKey key) :
    (∃ request, server.keyStatus request = .valid) ↔ server.apiKeys ≠ [] := by
  constructor
  · rintro ⟨request, valid⟩ none
    have status : server.keyStatus request =
        if (request.header "x-api-key").isEmpty then .missing else .unknown := by
      rw [keyStatus, none]
      rfl
    rw [status] at valid
    split at valid <;> cases valid
  · intro given
    obtain ⟨key, others, keys⟩ := List.exists_cons_of_ne_nil given
    have member : key ∈ server.apiKeys := keys ▸ List.mem_cons_self
    let request : Request := ⟨"POST".toList, "/api/parse".toList, [], []⟩
    have noneEmpty : [] ∉ server.apiKeys := fun empty => (usable [] empty).given rfl
    exact ⟨request.withKey key, server.key_valid_of_known _ noneEmpty
      ⟨key, request.with_key_shows key (usable key member), member⟩⟩

/-- A service that starts and lets no one in is one that is started with no key. -/
theorem Server.starts_closed_iff (surroundings : Surroundings) (environment : Environment) :
    (∃ server, Server.ofEnvironment surroundings environment = .ok server ∧
        ∀ request, server.keyStatus request ≠ .valid) ↔
      environment.apiKeys = .ok [] ∧ ∃ port, environment.tcpPort = .ok port := by
  constructor
  · rintro ⟨server, started, closed⟩
    obtain ⟨keys, port, listed, atPort, same⟩ := (of_environment_iff _ _ _).1 started
    have usable : ∀ key ∈ server.apiKeys, IsUsableKey key := by
      rw [same]
      exact environment.api_keys_usable keys listed
    have none : server.apiKeys = [] := by
      by_contra given
      obtain ⟨request, valid⟩ := (server.lets_in_iff usable).2 given
      exact closed request valid
    rw [same] at none
    exact ⟨none ▸ listed, port, atPort⟩
  · rintro ⟨listed, port, atPort⟩
    refine ⟨_, (of_environment_iff _ _ _).2 ⟨[], port, listed, atPort, rfl⟩, ?_⟩
    intro request valid
    exact (lets_in_iff _ (List.forall_mem_nil _)).1 ⟨request, valid⟩ rfl

/-- A service has a key, or does not start, exactly if the list of keys is empty or names one. Else
it starts at any port that is one, and lets no one in. -/
theorem service_keys_guarded_iff (surroundings : Surroundings) (environment : Environment) :
    let list := environment.value "API_KEYS"
    (∀ keys, environment.apiKeys = .ok keys → ∀ key ∈ keys, IsUsableKey key) ∧
      (environment.KeysGuarded ↔ list = [] ∨ NamesKey list) ∧
      (NamesKey list ↔ ∃ letter ∈ list, letter ≠ ',' ∧ isBlank letter = false) ∧
      ((∃ server, Server.ofEnvironment surroundings environment = .ok server ∧
          ∀ request, server.keyStatus request ≠ .valid) ↔
        (list ≠ [] ∧ ¬NamesKey list) ∧ ∃ port, environment.tcpPort = .ok port) := by
  intro list
  refine ⟨environment.api_keys_usable, environment.keys_guarded_iff,
    Environment.names_key_iff list, ?_⟩
  rw [Server.starts_closed_iff, environment.api_keys_eq_ok_nil_iff]

/-- A list of commas and blanks is accepted in production, and the service starts without a key. -/
theorem production_without_key :
    let environment : Environment := fun name =>
      if name = "API_KEYS".toList then some ", ,".toList
      else if name = "NODE_ENV".toList then some "production".toList else none
    environment.InProduction ∧ ¬NamesKey (environment.value "API_KEYS") ∧
      environment.apiKeys = .ok [] ∧ ¬environment.KeysGuarded := by
  intro environment
  have unnamed : ¬NamesKey (environment.value "API_KEYS") := by
    rw [← Environment.keys_of_list_eq_nil_iff]
    decide +kernel
  have listed : environment.apiKeys = .ok [] :=
    environment.api_keys_eq_ok_nil_iff.2 ⟨by decide, unnamed⟩
  refine ⟨rfl, unnamed, listed, ?_⟩
  intro guarded
  exact guarded.some_key [] listed rfl

end Http

end PostalAddress
