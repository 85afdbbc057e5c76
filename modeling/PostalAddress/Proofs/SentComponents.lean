import PostalAddress.Proofs.ComponentShape
import PostalAddress.Proofs.RequestBodies
import PostalAddress.Proofs.SolidText

/-!
Checking the components of a request does not show in the answer. Values that are null or blank
are taken out and the others are trimmed, and the standard form of what is left is the one of the
components as they were sent. Components without any text that is not blank count as not sent.
-/

namespace PostalAddress

/-- Components as they are sent, without a check of names and values. -/
def Components.ofJson? : Json → Option Components
  | .object fields => some (.single (.ofFields fields))
  | .array [.object first, .object second] => some (.pair (.ofFields first) (.ofFields second))
  | _ => none

namespace Json

/-- Under some key there is a text that is not blank. -/
def HoldsText (fields : List (Text × Json)) : Prop :=
  ∃ key text, fields.lookup key = some (.string text) ∧ text.isAllBlank = false

/-- An object, or one of several objects, holds a text. -/
def GivesText : Json → Prop
  | .object fields => HoldsText fields
  | .array items => ∃ fields, .object fields ∈ items ∧ HoldsText fields
  | _ => False

theorem gives_text_pair (first second : List (Text × Json)) :
    GivesText (.array [.object first, .object second]) ↔ HoldsText first ∨ HoldsText second := by
  simp [GivesText, or_and_right, exists_or]

end Json

namespace Bag

theorem get_of_fields_eq_some_iff (fields : List (Text × Json)) (component : Component)
    (text : Text) :
    (ofFields fields).get component = some text ↔
      fields.lookup component.name = some (.string text) := by
  constructor
  · intro found
    obtain ⟨value, listed, written⟩ := Option.bind_eq_some_iff.1 found
    cases value <;> cases written
    exact listed
  · intro listed
    exact Option.bind_eq_some_iff.2 ⟨_, listed, rfl⟩

theorem trimmed_given_iff (bag : Bag) :
    bag.trimmed.isEmpty = false ↔
      ∃ component text, bag.get component = some text ∧ text.isAllBlank = false := by
  have given (component : Component) : (bag.trimmed.get component).isNone = false ↔
      ∃ text, bag.get component = some text ∧ text.isAllBlank = false := by
    rw [Option.isNone_eq_false_iff, trimmed, is_some_get_of_values, ne_eq, Text.trim_eq_nil_iff,
      Bool.not_eq_true, value]
    cases bag.get component with
    | none => simp [Text.isAllBlank]
    | some text => simp
  rw [isEmpty, List.all_eq_false]
  simp only [Bool.not_eq_true, given]
  constructor
  · rintro ⟨component, _, held⟩
    exact ⟨component, held⟩
  · rintro ⟨component, held⟩
    exact ⟨component, component.mem_all, held⟩

/-- Among known names, the texts of the components are all the texts that there are. -/
theorem trimmed_of_fields_given_iff (fields : List (Text × Json))
    (named : ∀ field ∈ fields, (Component.ofName? field.1).isSome = true) :
    (ofFields fields).trimmed.isEmpty = false ↔ Json.HoldsText fields := by
  rw [trimmed_given_iff]
  simp only [get_of_fields_eq_some_iff]
  constructor
  · rintro ⟨component, text, listed, solid⟩
    exact ⟨component.name, text, listed, solid⟩
  · rintro ⟨key, text, listed, solid⟩
    obtain ⟨before, behind, rfl, _⟩ := List.lookup_eq_some_iff.1 listed
    obtain ⟨component, known⟩ := Option.isSome_iff_exists.1 (named (key, .string text) (by simp))
    have name : component.name = key := by simpa using List.find?_some known
    exact ⟨component, text, name ▸ listed, solid⟩

end Bag

theorem read_bag_eq_ok (value : Json) (bag : Bag) (read : readBag value = .ok bag) :
    ∃ fields, value = .object fields ∧ bag = (Bag.ofFields fields).trimmed ∧
      (bag.isEmpty = false ↔ Json.HoldsText fields) := by
  cases value with
  | object fields =>
      rw [read_bag_object] at read
      split at read
      case isTrue => cases read
      case isFalse known =>
        split at read
        case h_1 => cases read
        case h_2 =>
          cases read
          refine ⟨fields, rfl, rfl, Bag.trimmed_of_fields_given_iff fields ?_⟩
          intro field member
          by_contra unknown
          exact known (List.any_eq_true.2 ⟨field, member, by simpa using unknown⟩)
  | _ => cases read

theorem Components.is_empty_pair (first second : Bag) :
    (pair first second).isEmpty = (first.isEmpty && second.isEmpty) := by
  simp [isEmpty, bags]

theorem read_components_eq_ok (value : Json) (components : Components)
    (read : readComponents value = .ok components) :
    ∃ sent, Components.ofJson? value = some sent ∧ components = sent.trimmed ∧
      (components.isEmpty = false ↔ value.GivesText) := by
  cases value with
  | object fields =>
      rw [read_components_object] at read
      cases bagRead : readBag (.object fields) with
      | error problem =>
          rw [bagRead] at read
          cases read
      | ok bag =>
          rw [bagRead] at read
          cases read
          obtain ⟨_, same, rfl, given⟩ := read_bag_eq_ok _ bag bagRead
          cases same
          refine ⟨_, rfl, rfl, ?_⟩
          simpa [Components.isEmpty, Components.bags, Json.GivesText] using given
  | array items =>
      rw [read_components_array] at read
      split at read
      case h_2 => cases read
      case h_1 first second =>
        split at read
        case h_2 => cases read
        case h_1 firstBag secondBag firstRead secondRead =>
          cases read
          obtain ⟨firstFields, rfl, rfl, firstGiven⟩ := read_bag_eq_ok first firstBag firstRead
          obtain ⟨secondFields, rfl, rfl, secondGiven⟩ := read_bag_eq_ok second secondBag secondRead
          refine ⟨_, rfl, rfl, ?_⟩
          rw [Components.is_empty_pair, Bool.and_eq_false_iff, firstGiven, secondGiven,
            Json.gives_text_pair]
  | _ => cases read

namespace StandardizeRequest

structure Reads (fields : List (Text × Json)) (request : StandardizeRequest) : Prop where
  known : ∀ field ∈ fields, field.1 = addressKey ∨ field.1 = componentsKey
  address : readField readAddress (fields.lookup addressKey) = .ok request.address
  components : readField readComponents (fields.lookup componentsKey) = .ok request.components

theorem of_json_eq_ok_iff (fields : List (Text × Json)) (request : StandardizeRequest) :
    ofJson (.object fields) = .ok request ↔ Reads fields request := by
  have known : (fields.any fun field => field.1 ≠ addressKey && field.1 ≠ componentsKey) = false ↔
      ∀ field ∈ fields, field.1 = addressKey ∨ field.1 = componentsKey := by
    simp [List.any_eq_false, or_iff_not_imp_left]
  constructor
  · intro read
    rw [of_json_object] at read
    split at read
    case isTrue => cases read
    case isFalse noOther =>
      cases addressRead : readField readAddress (fields.lookup addressKey) with
      | error problem =>
          rw [addressRead] at read
          cases read
      | ok address =>
          rw [addressRead] at read
          cases componentsRead : readField readComponents (fields.lookup componentsKey) with
          | error problem =>
              rw [componentsRead] at read
              cases read
          | ok components =>
              rw [componentsRead] at read
              cases read
              exact ⟨known.1 (Bool.eq_false_iff.2 noOther), addressRead, componentsRead⟩
  · intro reads
    rw [of_json_object, known.2 reads.known, reads.address, reads.components]
    rfl

theorem of_json_without_components (fields : List (Text × Json)) (request : StandardizeRequest)
    (read : ofJson (.object fields) = .ok request) :
    ofJson (.object (fields.filter fun field => field.1 ≠ componentsKey)) =
      .ok ⟨request.address, none⟩ := by
  have reads := (of_json_eq_ok_iff fields request).1 read
  rw [of_json_eq_ok_iff]
  constructor
  case known =>
    intro field member
    exact reads.known field (List.mem_filter.1 member).1
  case address =>
    have kept : decide (addressKey ≠ componentsKey) = true := by decide
    rw [Json.lookup_filter_keys fun key => key ≠ componentsKey, kept, if_pos rfl, reads.address]
  case components =>
    have removed : decide (componentsKey ≠ componentsKey) = false := by decide
    rw [Json.lookup_filter_keys fun key => key ≠ componentsKey, removed]
    rfl

end StandardizeRequest

/-- With any text in the components that are sent, they decide alone, and without one, they might as
well be left out. -/
theorem standardize_sent_components (tagger : Tagger) (fields : List (Text × Json))
    (request : StandardizeRequest) (value : Json)
    (accepted : StandardizeRequest.ofJson (.object fields) = .ok request)
    (listed : fields.lookup componentsKey = some value) :
    ∃ sent validated,
      Components.ofJson? value = some sent ∧ request.components = some validated ∧
      standardize validated = standardize sent ∧
      (value.GivesText → answerStandardize tagger (.object fields) =
        .ok (.unasked (standardize sent))) ∧
      (¬value.GivesText → answerStandardize tagger (.object fields) =
        answerStandardize tagger
          (.object (fields.filter fun field => field.1 ≠ componentsKey))) := by
  have reads := (StandardizeRequest.of_json_eq_ok_iff fields request).1 accepted
  obtain ⟨address, components⟩ := request
  have read : readField readComponents (some value) = .ok components := listed ▸ reads.components
  cases validRead : readComponents value with
  | error problem =>
      rw [readField, validRead] at read
      cases read
  | ok validated =>
      rw [readField, validRead] at read
      cases read
      obtain ⟨sent, unchecked, rfl, given⟩ := read_components_eq_ok value validated validRead
      refine ⟨sent, sent.trimmed, unchecked, rfl, sent.standardize_trimmed, ?_, ?_⟩
      · intro text
        rw [answerStandardize, accepted]
        exact (StandardizeRequest.answer_components tagger address _ (given.2 text)).trans
          (by rw [sent.standardize_trimmed])
      · intro noText
        have empty : sent.trimmed.isEmpty = true := by
          rwa [← Bool.not_eq_false, given]
        have others := StandardizeRequest.of_json_without_components fields _ accepted
        rw [answerStandardize, answerStandardize, accepted, others]
        exact StandardizeRequest.answer_without_components tagger address _ empty

def elmAndBlank : Json :=
  .array [.object [(Component.streetName.name, .string " Elm ".toList), (Component.city.name, .null)],
    .object [(Component.streetName.name, .string [' '])]]

theorem standardize_elm_and_blank :
    let fields := [(addressKey, Json.string "12 Main St".toList), (componentsKey, elmAndBlank)]
    let tagger := Tagger.fixed (.parsed .streetAddress [])
    ∃ request sent validated,
      StandardizeRequest.ofJson (.object fields) = .ok request ∧
      fields.lookup componentsKey = some elmAndBlank ∧ elmAndBlank.GivesText ∧
      Components.ofJson? elmAndBlank = some sent ∧ request.components = some validated ∧
      validated ≠ sent ∧ standardize validated = standardize sent ∧
      answerStandardize tagger (.object fields) = .ok (.unasked (standardize sent)) := by
  intro fields tagger
  have given : elmAndBlank.GivesText :=
    ⟨_, .head _, Component.streetName.name, " Elm ".toList, rfl, rfl⟩
  obtain ⟨sent, validated, unchecked, checked, same, answered, _⟩ :=
    standardize_sent_components tagger fields _ elmAndBlank rfl rfl
  refine ⟨_, sent, validated, rfl, rfl, given, unchecked, checked, ?_, same, answered given⟩
  cases unchecked
  cases checked
  decide +kernel

end PostalAddress
