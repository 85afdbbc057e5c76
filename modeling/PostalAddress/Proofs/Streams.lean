import PostalAddress.Classification
import PostalAddress.Stream

/-!
The two streams of an intersection by the places of its tokens. The walk over the tokens remembers
one thing, whether it has come to the second street yet, and this is told by the place of the first
token that turns to it. No part of an address alone gets into the second stream, and none
into the first that was not there before.
-/

namespace PostalAddress

namespace Token

/-- Whether the tokens behind this one belong to the second street. -/
def turns (token : Token) : Bool := token.isSeparator || token.isSecondStreet

theorem location_labelled (token : Token) (location : token.isLocation = true) :
    ∃ component ∈ Component.locationFields, component.label = token.label := by
  simpa [isLocation] using location

theorem turn_no_location (token : Token) (turns : token.turns = true) :
    token.isLocation = false := by
  cases location : token.isLocation with
  | false => rfl
  | true =>
      obtain ⟨component, listed, labelled⟩ := token.location_labelled location
      have apart : ∀ component ∈ Component.locationFields,
          component.label ≠ Label.separator ∧
            Label.isSecondStreet component.label = false := by
        decide
      obtain ⟨noSeparator, noSecond⟩ := apart component listed
      rw [labelled] at noSeparator noSecond
      simp [Token.turns, isSeparator, isSecondStreet, noSeparator, noSecond] at turns

end Token

def turningPlace (tokens : List Token) : Nat := tokens.findIdx Token.turns

namespace Streams

def firstAt (turning : Nat) : Token × Nat → Option Token
  | (token, place) =>
      if token.turns || token.isLocation && !(place < turning) then none else some token

def secondAt (turning : Nat) : Token × Nat → Option Token
  | (token, place) =>
      if token.isSecondStreet then some token.asFirstStreet
      else if token.isLocation && turning < place then some token
      else none

/-- What a walk that has come to a place remembers: whether the turning lies behind, and if it lies
ahead, how far. -/
structure Remembers (turning place : Nat) (pastFirst : Bool) (ahead : List Token) : Prop where
  behind : pastFirst = true → turning < place
  ahead : pastFirst = false → turning = place + turningPlace ahead

theorem Remembers.turn {turning place : Nat} {pastFirst : Bool} {token : Token} {rest : List Token}
    (remembers : Remembers turning place pastFirst (token :: rest)) (turns : token.turns = true) :
    Remembers turning (place + 1) true rest where
  behind _ := by
    cases pastFirst with
    | true => exact Nat.lt_succ_of_lt (remembers.behind rfl)
    | false =>
        rw [remembers.ahead rfl, turningPlace, List.findIdx_cons, turns]
        exact Nat.lt_succ_self place
  ahead impossible := by cases impossible

theorem Remembers.stay {turning place : Nat} {pastFirst : Bool} {token : Token} {rest : List Token}
    (remembers : Remembers turning place pastFirst (token :: rest)) (stays : token.turns = false) :
    Remembers turning (place + 1) pastFirst rest where
  behind past := Nat.lt_succ_of_lt (remembers.behind past)
  ahead before := by
    rw [remembers.ahead before, turningPlace, List.findIdx_cons, stays, turningPlace, cond_false]
    omega

theorem of_tokens_by_place (tokens : List Token) (pastFirst : Bool) (turning place : Nat)
    (remembers : Remembers turning place pastFirst tokens) :
    ofTokens pastFirst tokens =
      ⟨(tokens.zipIdx place).filterMap (firstAt turning),
        (tokens.zipIdx place).filterMap (secondAt turning)⟩ := by
  induction tokens generalizing pastFirst place with
  | nil => rfl
  | cons token rest induction =>
      rw [ofTokens, List.zipIdx_cons, List.filterMap_cons, List.filterMap_cons, firstAt, secondAt]
      cases turns : token.turns with
      | true =>
          rw [induction true (place + 1) (remembers.turn turns), Bool.true_or, if_pos rfl,
            token.turn_no_location turns]
          cases second : token.isSecondStreet with
          | true => rfl
          | false =>
              have separator : token.isSeparator = true := by
                simpa [Token.turns, second] using turns
              simp [separator]
      | false =>
          obtain ⟨separator, second⟩ := Bool.or_eq_false_iff.1 turns
          have later := remembers.stay turns
          rw [induction pastFirst (place + 1) later]
          cases pastFirst with
          | true =>
              have late : turning < place := remembers.behind rfl
              cases location : token.isLocation with
              | true => simp [consSecond, separator, second, late, Nat.le_of_lt late]
              | false => simp [consFirst, separator, second]
          | false =>
              have early : place < turning := by
                rw [later.ahead rfl]
                omega
              simp [consFirst, separator, second, early, Nat.not_lt_of_gt early]

end Streams

theorem split_streets_by_place (tokens : List Token) :
    splitStreets tokens =
      ⟨tokens.zipIdx.filterMap (Streams.firstAt (turningPlace tokens)),
        tokens.zipIdx.filterMap (Streams.secondAt (turningPlace tokens))⟩ :=
  Streams.of_tokens_by_place tokens false _ 0 ⟨by simp, by simp⟩

theorem mem_split_first (tokens : List Token) (token : Token)
    (member : token ∈ (splitStreets tokens).first) : token ∈ tokens := by
  rw [split_streets_by_place] at member
  obtain ⟨⟨source, place⟩, listed, kept⟩ := List.mem_filterMap.1 member
  rw [Streams.firstAt] at kept
  split at kept
  case isTrue => cases kept
  case isFalse =>
    cases kept
    exact List.fst_mem_of_mem_zipIdx listed

theorem mem_split_second (tokens : List Token) (token : Token)
    (member : token ∈ (splitStreets tokens).second) :
    (∃ source ∈ tokens, source.isSecondStreet = true ∧ token = source.asFirstStreet) ∨
      token ∈ tokens ∧ token.isLocation = true := by
  rw [split_streets_by_place] at member
  obtain ⟨⟨source, place⟩, listed, kept⟩ := List.mem_filterMap.1 member
  have found : source ∈ tokens := List.fst_mem_of_mem_zipIdx listed
  rw [Streams.secondAt] at kept
  split at kept
  case isTrue second =>
    cases kept
    exact .inl ⟨source, found, second, rfl⟩
  case isFalse =>
    split at kept
    case isTrue placed =>
      cases kept
      exact .inr ⟨found, (Bool.and_eq_true_iff.1 placed).1⟩
    case isFalse => cases kept

/-- The label of a token of the second street begins with the word for a street when the word for
the second one is taken off. -/
theorem as_first_street_begins (token : Token) (second : token.isSecondStreet = true) :
    "Street".toList <+: token.asFirstStreet.label := by
  obtain ⟨rest, label⟩ := List.isPrefixOf_iff_prefix.1 second
  refine ⟨rest, ?_⟩
  rw [Token.asFirstStreet, Label.asFirstStreet, ← label]
  rfl

theorem split_streets_no_address_part (tokens : List Token)
    (lacking : ∀ token ∈ tokens, token.isAddressOnly = false) (component : Component)
    (addressOnly : component ∈ Component.addressOnly) :
    (∀ token ∈ (splitStreets tokens).first, token.component? ≠ some component) ∧
      ∀ token ∈ (splitStreets tokens).second, token.component? ≠ some component := by
  have absent (token : Token) (member : token ∈ tokens) : token.component? ≠ some component := by
    intro labelled
    have label := (Label.component_eq_some_iff token.label component).1 labelled
    have found : token.isAddressOnly = true :=
      List.any_eq_true.2 ⟨component, addressOnly, decide_eq_true label⟩
    rw [lacking token member] at found
    cases found
  constructor
  · intro token member
    exact absent token (mem_split_first tokens token member)
  · intro token member
    rcases mem_split_second tokens token member with ⟨source, _, second, rfl⟩ | ⟨found, _⟩
    · intro labelled
      have label := (Label.component_eq_some_iff _ component).1 labelled
      have begins := as_first_street_begins source second
      rw [← label] at begins
      have noStreet : ∀ component ∈ Component.addressOnly,
          ¬"Street".toList <+: component.label := by decide
      exact noStreet component addressOnly begins
    · exact absent token found

end PostalAddress
