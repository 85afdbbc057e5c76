import PostalAddress.Proofs.CheckOrder
import PostalAddress.Proofs.SentComponents

/-!
What requests are accepted, and what is told of the others. The schemas of the two kinds of requests
are said on their own, and so are the checks that tell a problem, in their order: a request is
accepted exactly if no check arises, and else it is told the first one's problem.
-/

namespace PostalAddress

namespace Json

def IsAddress (value : Json) : Prop := ∃ text, value = .string text ∧ text.trim.pointCount ≤ 1000

def IsTextOrNull (value : Json) : Prop := value = .null ∨ ∃ text, value = .string text

def IsBag (value : Json) : Prop :=
  ∃ fields, value = .object fields ∧
    ∀ field ∈ fields, (∃ component : Component, component.name = field.1) ∧ field.2.IsTextOrNull

def IsComponents (value : Json) : Prop :=
  value.IsBag ∨ ∃ first second, value = .array [first, second] ∧ first.IsBag ∧ second.IsBag

def IsParseRequest (value : Json) : Prop :=
  ∃ fields, value = .object fields ∧ (∀ field ∈ fields, field.1 = addressKey) ∧
    ∃ address, fields.lookup addressKey = some address ∧ address.IsAddress

def IsStandardizeRequest (value : Json) : Prop :=
  ∃ fields, value = .object fields ∧
    (∀ field ∈ fields, field.1 = addressKey ∨ field.1 = componentsKey) ∧
    (∀ address, fields.lookup addressKey = some address → address.IsAddress) ∧
    ∀ components, fields.lookup componentsKey = some components → components.IsComponents

end Json

def addressChecks : Json → List (Check SchemaProblem)
  | .string text => [⟨.addressTooLong, 1000 < text.trim.pointCount⟩]
  | _ => [⟨.addressNotText, True⟩]

def bagChecks : Json → List (Check SchemaProblem)
  | .object fields =>
      ⟨.unknownComponent, ∃ field ∈ fields, ∀ component : Component, component.name ≠ field.1⟩ ::
        fields.map fun field => ⟨.componentNotText field.1, ¬field.2.IsTextOrNull⟩
  | _ => [⟨.componentsNotAnObject, True⟩]

/-- Two bags may stand for one. What is wrong with a bag of two is not told. -/
def componentsChecks : Json → List (Check SchemaProblem)
  | .object fields => bagChecks (.object fields)
  | value => [⟨.componentsNotAnObject, ¬value.IsComponents⟩]

def parseChecks : Json → List (Check SchemaProblem)
  | .object fields =>
      [⟨.missingAddress, fields.lookup addressKey = none⟩,
        ⟨.unknownProperty, ∃ field ∈ fields, field.1 ≠ addressKey⟩] ++
        (fields.lookup addressKey).elim [] addressChecks
  | _ => [⟨.notAnObject, True⟩]

def standardizeChecks : Json → List (Check SchemaProblem)
  | .object fields =>
      ⟨.unknownProperty, ∃ field ∈ fields, field.1 ≠ addressKey ∧ field.1 ≠ componentsKey⟩ ::
        ((fields.lookup addressKey).elim [] addressChecks ++
          (fields.lookup componentsKey).elim [] componentsChecks)
  | _ => [⟨.notAnObject, True⟩]

open Check (Decide NoneArises FirstFailure none_arises_cons)

theorem Json.is_text_or_null_iff (value : Json) :
    value.isTextOrNull = true ↔ value.IsTextOrNull := by
  cases value <;> simp [isTextOrNull, IsTextOrNull]

theorem Component.unknown_name_iff (key : Text) :
    (ofName? key).isNone = true ↔ ∀ component : Component, component.name ≠ key := by
  rw [Option.isNone_iff_eq_none, ofName?, List.find?_eq_none]
  constructor
  · intro none component
    simpa using none component component.mem_all
  · intro none component _
    simpa using none component

theorem read_address_decided (value : Json) : Decide (addressChecks value) (readAddress value) := by
  cases value with
  | string text =>
      rw [read_address_string]
      split
      case isTrue short =>
        apply (none_arises_cons _ _).2
        exact ⟨Nat.not_lt.2 short, List.forall_mem_nil _⟩
      case isFalse long => exact Decide.cons_of_arises _ _ (Nat.lt_of_not_le long)
  | _ => exact Decide.cons_of_arises _ _ trivial

theorem read_bag_decided (value : Json) : Decide (bagChecks value) (readBag value) := by
  cases value with
  | object fields =>
      have unknown : (fields.any fun field => (Component.ofName? field.1).isNone) = true ↔
          ∃ field ∈ fields, ∀ component : Component, component.name ≠ field.1 := by
        simp only [List.any_eq_true, Component.unknown_name_iff]
      have notText (field : Text × Json) :
          (!field.2.isTextOrNull) = true ↔ ¬field.2.IsTextOrNull := by
        rw [Bool.not_eq_true', ← Bool.not_eq_true, Json.is_text_or_null_iff]
      let told : Text × Json → SchemaProblem := fun field => .componentNotText field.1
      rw [read_bag_object, bagChecks]
      split
      case isTrue some => exact Decide.cons_of_arises _ _ (unknown.1 some)
      case isFalse none =>
        apply Decide.cons_of_not _ fun some => none (unknown.2 some)
        split
        case h_1 field found =>
          exact Check.first_failure_of_find fields _ _ notText told field found
        case h_2 found =>
          exact Check.none_arises_of_find fields _ _ notText told found
  | _ => exact Decide.cons_of_arises _ _ trivial

/-- A bag is read exactly if it keeps the schema. -/
theorem read_bag_ok_iff (value : Json) : (∃ bag, readBag value = .ok bag) ↔ value.IsBag := by
  rw [(read_bag_decided value).ok_iff]
  cases value with
  | object fields =>
      rw [bagChecks, none_arises_cons, Check.none_arises_map]
      constructor
      · intro passed
        refine ⟨fields, rfl, fun field member => ⟨?_, not_not.1 (passed.2 field member)⟩⟩
        by_contra unknown
        exact passed.1 ⟨field, member, not_exists.1 unknown⟩
      · intro bag
        rcases bag with ⟨_, same, held⟩
        cases same
        constructor
        · intro unknown
          rcases unknown with ⟨field, member, unnamed⟩
          rcases (held field member).1 with ⟨component, named⟩
          exact unnamed component named
        · intro field member
          exact not_not.2 (held field member).2
  | _ => simp [bagChecks, NoneArises, Json.IsBag]

theorem Json.is_components_array_iff (items : List Json) :
    (array items).IsComponents ↔
      ∃ first second, items = [first, second] ∧ first.IsBag ∧ second.IsBag := by
  have noBag : ¬(array items).IsBag := by simp [IsBag]
  rw [IsComponents, or_iff_right noBag]
  simp only [array.injEq]

theorem read_components_decided (value : Json) :
    Decide (componentsChecks value) (readComponents value) := by
  cases value with
  | object fields =>
      rw [componentsChecks, read_components_object]
      exact (read_bag_decided (.object fields)).map Components.single
  | array items =>
      simp only [componentsChecks, read_components_array, Json.is_components_array_iff]
      split
      case h_1 first second =>
        split
        case h_1 firstBag secondBag firstRead secondRead =>
          have bags : first.IsBag ∧ second.IsBag :=
            ⟨(read_bag_ok_iff first).1 ⟨_, firstRead⟩, (read_bag_ok_iff second).1 ⟨_, secondRead⟩⟩
          apply Decide.cons_of_not
          · exact not_not.2 ⟨first, second, rfl, bags⟩
          · exact List.forall_mem_nil _
        case h_2 notBoth =>
          apply Decide.cons_of_arises
          intro pair
          rcases pair with ⟨_, _, same, firstBag, secondBag⟩
          cases same
          rcases (read_bag_ok_iff first).2 firstBag with ⟨firstRead, firstIs⟩
          rcases (read_bag_ok_iff second).2 secondBag with ⟨secondRead, secondIs⟩
          exact notBoth firstRead secondRead firstIs secondIs
      case h_2 notTwo =>
        apply Decide.cons_of_arises
        intro pair
        rcases pair with ⟨first, second, same, _⟩
        exact notTwo first second same
  | _ =>
      apply Decide.cons_of_arises
      simp [Json.IsComponents, Json.IsBag]

theorem read_field_decided {Value : Type} (read : Json → Except SchemaProblem Value)
    (checks : Json → List (Check SchemaProblem))
    (decided : ∀ value, Decide (checks value) (read value)) (given : Option Json) :
    Decide (given.elim [] checks) (readField read given) := by
  cases given with
  | none => exact List.forall_mem_nil _
  | some value => exact (decided value).map some

theorem ParseRequest.of_json_decided (value : Json) :
    Decide (parseChecks value) (ofJson value) := by
  cases value with
  | object fields =>
      have unknown : (fields.any fun field => field.1 ≠ addressKey) = true ↔
          ∃ field ∈ fields, field.1 ≠ addressKey := by
        simp only [List.any_eq_true, decide_eq_true_eq]
      rw [of_json_object, parseChecks]
      cases listed : fields.lookup addressKey with
      | none => exact Decide.cons_of_arises _ _ rfl
      | some address =>
          apply Decide.cons_of_not _ (by simp)
          change Decide _ (if _ then _ else _)
          split
          case isTrue some => exact Decide.cons_of_arises _ _ (unknown.1 some)
          case isFalse none =>
            apply Decide.cons_of_not _ fun some => none (unknown.2 some)
            exact (read_address_decided address).map ParseRequest.mk
  | _ => exact Decide.cons_of_arises _ _ trivial

theorem StandardizeRequest.of_json_decided (value : Json) :
    Decide (standardizeChecks value) (ofJson value) := by
  cases value with
  | object fields =>
      have unknown : (fields.any fun field => field.1 ≠ addressKey && field.1 ≠ componentsKey) =
          true ↔ ∃ field ∈ fields, field.1 ≠ addressKey ∧ field.1 ≠ componentsKey := by
        simp only [List.any_eq_true, Bool.and_eq_true, decide_eq_true_eq]
      have addressDecided :=
        read_field_decided readAddress addressChecks read_address_decided (fields.lookup addressKey)
      have componentsDecided := read_field_decided readComponents componentsChecks
        read_components_decided (fields.lookup componentsKey)
      rw [of_json_object, standardizeChecks]
      split
      case isTrue some => exact Decide.cons_of_arises _ _ (unknown.1 some)
      case isFalse none =>
        apply Decide.cons_of_not _ fun some => none (unknown.2 some)
        apply addressDecided.bind
        intro address _
        exact componentsDecided.map _
  | _ => exact Decide.cons_of_arises _ _ trivial

theorem address_checks_pass_iff (value : Json) :
    NoneArises (addressChecks value) ↔ value.IsAddress := by
  cases value with
  | string text =>
      rw [addressChecks, none_arises_cons, Nat.not_lt, Json.IsAddress]
      constructor
      · intro passed
        exact ⟨text, rfl, passed.1⟩
      · intro address
        rcases address with ⟨_, same, short⟩
        cases same
        exact ⟨short, List.forall_mem_nil _⟩
  | _ => simp [addressChecks, NoneArises, Json.IsAddress]

theorem components_checks_pass_iff (value : Json) :
    NoneArises (componentsChecks value) ↔ value.IsComponents := by
  cases value with
  | object fields =>
      have noPair : ¬∃ first second, Json.object fields = .array [first, second] ∧
          first.IsBag ∧ second.IsBag := by simp
      rw [componentsChecks, ← (read_bag_decided _).ok_iff, read_bag_ok_iff, Json.IsComponents,
        or_iff_left noPair]
  | _ =>
      rw [componentsChecks, none_arises_cons, not_not]
      · exact and_iff_left (List.forall_mem_nil _)
      · intro _ impossible
        cases impossible

theorem field_checks_pass_iff (checks : Json → List (Check SchemaProblem)) (schema : Json → Prop)
    (pass : ∀ value, NoneArises (checks value) ↔ schema value) (given : Option Json) :
    NoneArises (given.elim [] checks) ↔ ∀ value, given = some value → schema value := by
  cases given with
  | none => simp [NoneArises]
  | some value => simp [pass]

theorem parse_checks_pass_iff (value : Json) :
    NoneArises (parseChecks value) ↔ value.IsParseRequest := by
  cases value with
  | object fields =>
      rw [parseChecks, Check.none_arises_append, none_arises_cons, none_arises_cons,
        field_checks_pass_iff _ _ address_checks_pass_iff, Json.IsParseRequest]
      constructor
      · intro passed
        rcases passed with ⟨⟨given, known, _⟩, address⟩
        rcases Option.ne_none_iff_exists'.1 given with ⟨value, listed⟩
        refine ⟨fields, rfl, fun field member => ?_, value, listed, address value listed⟩
        by_contra unknown
        exact known ⟨field, member, unknown⟩
      · intro request
        rcases request with ⟨_, same, known, value, listed, address⟩
        cases same
        refine ⟨⟨?_, ?_, List.forall_mem_nil _⟩, ?_⟩
        · intro missing
          rw [listed] at missing
          cases missing
        · intro unknown
          rcases unknown with ⟨field, member, other⟩
          exact other (known field member)
        · intro other found
          rw [listed] at found
          cases found
          exact address
  | _ => simp [parseChecks, NoneArises, Json.IsParseRequest]

theorem standardize_checks_pass_iff (value : Json) :
    NoneArises (standardizeChecks value) ↔ value.IsStandardizeRequest := by
  cases value with
  | object fields =>
      have known : (¬∃ field ∈ fields, field.1 ≠ addressKey ∧ field.1 ≠ componentsKey) ↔
          ∀ field ∈ fields, field.1 = addressKey ∨ field.1 = componentsKey := by
        simp [or_iff_not_imp_left]
      rw [standardizeChecks, none_arises_cons, Check.none_arises_append,
        field_checks_pass_iff _ _ address_checks_pass_iff,
        field_checks_pass_iff _ _ components_checks_pass_iff, known, Json.IsStandardizeRequest]
      simp only [Json.object.injEq, exists_eq_left']
  | _ => simp [standardizeChecks, NoneArises, Json.IsStandardizeRequest]

end PostalAddress
