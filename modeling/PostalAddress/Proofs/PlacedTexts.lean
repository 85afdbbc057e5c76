import PostalAddress.Proofs.IntersectionValues
import PostalAddress.Proofs.NumberRanges

/-!
The value of a component said by the places of its tokens. It is their texts in order, and what
stands between two neighbours depends on nothing but the tokens between them in the list: a hyphen
if the component is the house number and these are separators, one or more, and a space otherwise.
The walk over the tokens never looks back; what it remembers at a place is whether a house number
that comes there would make a range with the last one.
-/

namespace PostalAddress

/-- The texts of a component, with the places of their tokens. -/
def placedTexts (component : Component) (tokens : List Token) : List (Text × Nat) :=
  tokens.zipIdx.filterMap fun (token, place) =>
    (token.textFor? component).map fun text => (text, place)

def tokensBetween (tokens : List Token) (left right : Nat) : List Token :=
  (tokens.take right).drop (left + 1)

/-- At least one token stands between the places, and only separators do. -/
def IsRange (tokens : List Token) (left right : Nat) : Prop :=
  tokensBetween tokens left right ≠ [] ∧
    ∀ token ∈ tokensBetween tokens left right, token.isSeparator = true

instance (tokens : List Token) (left right : Nat) : Decidable (IsRange tokens left right) :=
  inferInstanceAs (Decidable (_ ∧ _))

def joinerBetween (component : Component) (tokens : List Token) (left right : Nat) : Text :=
  if component = .number ∧ IsRange tokens left right then ['-'] else [' ']

def joinBehind (joiner : Nat → Nat → Text) (place : Nat) : List (Text × Nat) → Text
  | [] => []
  | (text, next) :: rest => joiner place next ++ text ++ joinBehind joiner next rest

def joinPlaced (joiner : Nat → Nat → Text) : List (Text × Nat) → Option Text
  | [] => none
  | (text, place) :: rest => some (text ++ joinBehind joiner place rest)

theorem join_behind_concat (joiner : Nat → Nat → Text) (place last next : Nat)
    (texts : List (Text × Nat)) (previous text : Text) :
    joinBehind joiner place (texts ++ [(previous, last), (text, next)]) =
      joinBehind joiner place (texts ++ [(previous, last)]) ++ (joiner last next ++ text) := by
  induction texts generalizing place with
  | nil => simp [joinBehind]
  | cons head rest induction => simp [joinBehind, induction head.2]

theorem join_placed_concat (joiner : Nat → Nat → Text) (last next : Nat)
    (texts : List (Text × Nat)) (previous text : Text) :
    joinPlaced joiner (texts ++ [(previous, last), (text, next)]) =
      (joinPlaced joiner (texts ++ [(previous, last)])).map fun value =>
        value ++ joiner last next ++ text := by
  cases texts with
  | nil => simp [joinPlaced, joinBehind]
  | cons head rest => simp [joinPlaced, join_behind_concat]

theorem placed_texts_concat (component : Component) (tokens : List Token) (token : Token) :
    placedTexts component (tokens ++ [token]) =
      placedTexts component tokens ++
        ((token.textFor? component).map fun text => (text, tokens.length)).toList := by
  rw [placedTexts, List.zipIdx_append, List.filterMap_append, placedTexts, Nat.zero_add]
  cases added : token.textFor? component <;> simp [added]

theorem placed_texts_last (component : Component) (tokens : List Token)
    (texts : List (Text × Nat)) (text : Text) (place : Nat)
    (placed : placedTexts component tokens = texts ++ [(text, place)]) :
    ∃ before token gap, tokens = before ++ token :: gap ∧ before.length = place ∧
      token.textFor? component = some text ∧ ∀ other ∈ gap, other.textFor? component = none := by
  induction tokens using List.reverseRecOn generalizing texts with
  | nil => simp [placedTexts] at placed
  | append_singleton tokens token induction =>
      rw [placed_texts_concat] at placed
      cases added : token.textFor? component with
      | some written =>
          rw [added, Option.map_some, Option.toList_some] at placed
          have same := (List.append_inj' placed rfl).2
          simp only [List.cons.injEq, Prod.mk.injEq, and_true] at same
          rw [same.1] at added
          exact ⟨tokens, token, [], rfl, same.2, added, by simp⟩
      | none =>
          rw [added, Option.map_none, Option.toList_none, List.append_nil] at placed
          rcases induction texts placed with ⟨before, last, gap, parted, length, found, silent⟩
          refine ⟨before, last, gap ++ [token], by simp [parted], length, found, ?_⟩
          intro other member
          rcases List.mem_append.1 member with inGap | behind
          · exact silent other inGap
          · rw [List.mem_singleton.1 behind, added]

theorem gap_of_ends_with_number (before gap others : List Token) (number : Token)
    (silent : ∀ other ∈ gap, ¬other.IsNumber)
    (ends : EndsWithNumber (before ++ number :: gap) others) : gap <:+ others := by
  rcases ends with ⟨front, last, parted, isNumber⟩
  have left : gap <:+ before ++ number :: gap := ⟨before ++ [number], by simp⟩
  have right : last :: others <:+ before ++ number :: gap := ⟨front, parted.symm⟩
  rcases List.suffix_or_suffix_of_suffix left right with within | around
  · rcases List.suffix_cons_iff.1 within with same | behind
    · exact absurd isNumber (silent last (by simp [same]))
    · exact behind
  · exact absurd isNumber (silent last (around.subset (.head _)))

namespace Joining

/-- A range is open behind the last house number if separators follow it, and nothing else. -/
theorem trail_open_iff (before gap : List Token) (number : Token) (isNumber : number.IsNumber)
    (silent : ∀ other ∈ gap, ¬other.IsNumber) :
    ((before ++ number :: gap).foldl step start).trail = .afterNumberAndSeparator ↔
      gap ≠ [] ∧ ∀ token ∈ gap, token.isSeparator = true := by
  have ends : EndsWithNumber (before ++ number :: gap) gap := ⟨before, number, rfl, isNumber⟩
  have told (separators : ∀ token ∈ gap, token.isSeparator = true) :=
    (run_ends_with_number _ gap ends separators).2
  constructor
  · intro opened
    have remembered : ((before ++ number :: gap).foldl step start).trail ≠ .elsewhere := by
      rw [opened]
      decide
    rcases trail_ends_with_number _ remembered with ⟨others, otherEnds, allSeparators⟩
    have within := gap_of_ends_with_number before gap others number silent otherEnds
    have separators : ∀ token ∈ gap, token.isSeparator = true := by
      intro token member
      exact allSeparators token (within.subset member)
    refine ⟨?_, separators⟩
    intro empty
    rw [told separators, if_pos empty] at opened
    cases opened
  · intro separated
    rw [told separated.2, if_neg separated.1]

/-- What the walk remembers is what the tokens behind the last text of the component say. -/
theorem joiner_at_place (component : Component) (front behind : List Token)
    (texts : List (Text × Nat)) (text : Text) (place : Nat)
    (placed : placedTexts component front = texts ++ [(text, place)]) :
    joiner component (front.foldl step start).trail =
      joinerBetween component (front ++ behind) place front.length := by
  by_cases isNumber : component = .number
  · subst isNumber
    rcases placed_texts_last .number front texts text place placed with
      ⟨before, number, gap, parted, length, found, silent⟩
    have numbered : number.IsNumber :=
      number.is_number_iff.2 ⟨text, (number.text_for_eq_some_iff .number text).1 found⟩
    have noNumber : ∀ other ∈ gap, ¬other.IsNumber := by
      intro other member otherNumbered
      rcases other.is_number_iff.1 otherNumbered with ⟨written, added⟩
      have told := (other.text_for_eq_some_iff .number written).2 added
      rw [silent other member] at told
      cases told
    have between : tokensBetween (front ++ behind) place front.length = gap := by
      have passed : (before ++ [number]).length = place + 1 := by simp [length]
      rw [tokensBetween, List.take_left, parted, List.append_cons before, ← passed, List.drop_left]
    have opened := trail_open_iff before gap number numbered noNumber
    rw [← parted, ← between] at opened
    simp [joiner, joinerBetween, IsRange, opened]
  · simp [joiner, joinerBetween, isNumber]

end Joining

namespace Bag

theorem get_of_tokens_front (component : Component) (front behind : List Token) :
    (ofTokens front).get component =
      joinPlaced (joinerBetween component (front ++ behind)) (placedTexts component front) := by
  induction front using List.reverseRecOn generalizing behind with
  | nil => rfl
  | append_singleton front token induction =>
      have before := induction (token :: behind)
      rw [placed_texts_concat, List.append_assoc, List.singleton_append]
      cases added : token.textFor? component with
      | none =>
          rw [of_tokens_without_text front token component added, before]
          simp
      | some text =>
          rw [of_tokens_joined front token component text added, before]
          rcases List.eq_nil_or_concat (placedTexts component front) with none | ⟨texts, last, placed⟩
          · rw [none]
            simp [joinPlaced, joinBehind]
          · rw [List.concat_eq_append] at placed
            have joiner := Joining.joiner_at_place component front (token :: behind) texts _ _ placed
            rw [placed, joiner, Option.map_some, Option.toList_some, List.append_assoc,
              List.singleton_append, join_placed_concat]
            cases texts <;> rfl

/-- The value of a component is its texts in order, and only between house numbers that are a range
there is a hyphen. -/
theorem get_of_tokens_by_place (tokens : List Token) (component : Component) :
    (ofTokens tokens).get component =
      joinPlaced (joinerBetween component tokens) (placedTexts component tokens) := by
  have whole := get_of_tokens_front component tokens []
  rwa [List.append_nil] at whole

example :
    (ofTokens [.ofComponent .number "1804".toList, .separator "&".toList,
      .separator "and".toList, .ofComponent .number "1810".toList,
      .ofComponent .number "1812".toList]).get .number = some "1804-1810 1812".toList := by
  decide

end Bag

end PostalAddress
