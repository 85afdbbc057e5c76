import PostalAddress.Proofs.StandardForm

/-!
How a standard address is written. Its values and its lines are without periods and parentheses,
with single spaces inside and no space at the ends, and no unit of them is in lower case; they are
in uppercase exactly if the components are. Texts of this form that are joined by a separator with
single spaces have the form again. Two spaces in a row therefore stand only between the lines of
the single line, and the lines are read back from it by splitting there.
-/

namespace PostalAddress

/-- Neither periods nor parentheses nor units in lower case, and no blanks but single spaces. -/
structure IsClear (text : Text) : Prop where
  settled : ∀ unit ∈ text, Text.upperCharacter unit = [unit]
  unmarked : '.' ∉ text ∧ '(' ∉ text ∧ ')' ∉ text
  squeezed : Text.IsSqueezed text

structure IsWritten (text : Text) : Prop extends IsClear text where
  first : text.head? ≠ some ' '
  last : text.getLast? ≠ some ' '

theorem IsTidy.clear {text : Text} (tidy : IsTidy text) : IsClear text where
  settled := tidy.settled
  unmarked := (no_dropped_mark_iff text).1 tidy.unmarked
  squeezed := tidy.squeezed

theorem IsClear.tidy {text : Text} (clear : IsClear text)
    (last : ∀ letter ∈ text.getLast?, isEdgeMark letter = false) : IsTidy text where
  settled := clear.settled
  unmarked := (no_dropped_mark_iff text).2 clear.unmarked
  squeezed := clear.squeezed
  last := last

theorem IsRemainder.written {text : Text} (remainder : IsRemainder text) : IsWritten text where
  toIsClear := remainder.toIsTidy.clear
  first space := absurd (remainder.start ' ' space) (by decide)
  last space := absurd (remainder.last ' ' space) (by decide)

theorem IsNormal.written {text : Text} (normal : IsNormal text) : IsWritten text :=
  normal.remainder.written

theorem IsClear.append {left right : Text} (leftClear : IsClear left) (rightClear : IsClear right)
    (apart : ¬(left.getLast? = some ' ' ∧ right.head? = some ' ')) : IsClear (left ++ right) where
  settled unit member :=
    (List.mem_append.1 member).elim (leftClear.settled unit) (rightClear.settled unit)
  unmarked := by
    obtain ⟨leftPeriod, leftOpening, leftClosing⟩ := leftClear.unmarked
    obtain ⟨rightPeriod, rightOpening, rightClosing⟩ := rightClear.unmarked
    simp [leftPeriod, leftOpening, leftClosing, rightPeriod, rightOpening, rightClosing]
  squeezed := by
    constructor
    case spaces =>
      intro letter member blank
      rcases List.mem_append.1 member with inLeft | inRight
      · exact leftClear.squeezed.spaces letter inLeft blank
      · exact rightClear.squeezed.spaces letter inRight blank
    case apart =>
      refine leftClear.squeezed.apart.append rightClear.squeezed.apart ?_
      rintro _ ends _ begins ⟨rfl, rfl⟩
      exact apart ⟨ends, begins⟩

/-- What stands between two written texts may itself begin and end with a space. -/
theorem IsWritten.join {left separator right : Text} (leftWritten : IsWritten left)
    (rightWritten : IsWritten right) (clear : IsClear separator) (leftGiven : left ≠ [])
    (rightGiven : right ≠ []) : IsWritten (left ++ separator ++ right) := by
  have front : IsClear (left ++ separator) :=
    leftWritten.toIsClear.append clear fun touch => leftWritten.last touch.1
  have frontGiven : left ++ separator ≠ [] := List.append_ne_nil_of_left_ne_nil leftGiven _
  refine ⟨front.append rightWritten.toIsClear fun touch => rightWritten.first touch.2, ?_, ?_⟩
  · rw [List.head?_append_of_ne_nil _ frontGiven, List.head?_append_of_ne_nil _ leftGiven]
    exact leftWritten.first
  · rw [List.getLast?_append_of_ne_nil _ rightGiven]
    exact rightWritten.last

namespace Text

theorem intercalate_ne_nil (separator piece : Text) (pieces : List Text) (given : piece ≠ []) :
    separator.intercalate (piece :: pieces) ≠ [] := by
  cases pieces with
  | nil => simpa using given
  | cons next others => simp [given]

theorem mem_nonempty {pieces : List Text} {piece : Text}
    (member : piece ∈ pieces.filter fun piece => !piece.isEmpty) : piece ∈ pieces ∧ piece ≠ [] := by
  simpa using member

/-- What holds of the pieces holds of the joined text, if joining two texts keeps it. -/
theorem join_nonempty_keeps (holds : Text → Prop) (separator : Text) (nothing : holds [])
    (join : ∀ left right, holds left → holds right → left ≠ [] → right ≠ [] →
      holds (left ++ separator ++ right)) (pieces : List Text)
    (held : ∀ piece ∈ pieces, holds piece) : holds (joinNonempty separator pieces) := by
  have kept : ∀ piece ∈ pieces.filter fun piece => !piece.isEmpty, holds piece ∧ piece ≠ [] := by
    intro piece member
    exact ⟨held piece (mem_nonempty member).1, (mem_nonempty member).2⟩
  rw [joinNonempty]
  generalize (pieces.filter fun piece => !piece.isEmpty) = filled at kept
  induction filled with
  | nil => exact nothing
  | cons piece others induction =>
      cases others with
      | nil => simpa using (kept piece (by simp)).1
      | cons next rest =>
          have tail := induction fun other member => kept other (.tail _ member)
          have tailGiven := intercalate_ne_nil separator next rest (kept next (by simp)).2
          rw [List.intercalate_cons_cons]
          exact join _ _ (kept piece (by simp)).1 tail (kept piece (by simp)).2 tailGiven

theorem join_nonempty_written (separator : Text) (clear : IsClear separator) (pieces : List Text)
    (written : ∀ piece ∈ pieces, IsWritten piece) : IsWritten (joinNonempty separator pieces) :=
  join_nonempty_keeps IsWritten separator UnitText.empty_normal.written
    (fun _ _ left right leftGiven rightGiven => left.join right clear leftGiven rightGiven) pieces
    written

/-- Halves do not meet over a separator without any. -/
theorem join_nonempty_upper (separator : Text) (given : separator ≠ [])
    (marks : ∀ letter ∈ separator, letter ∈ [' ', ',', '&']) (pieces : List Text)
    (upper : ∀ piece ∈ pieces, IsUpper piece) : IsUpper (joinNonempty separator pieces) := by
  have plain : ∀ unit ∈ [' ', ',', '&'], upperCharacter unit = [unit] ∧ isHalf unit = false :=
    List.forall_mem_cons.2 ⟨by decide,
      List.forall_mem_cons.2 ⟨by decide, List.forall_mem_singleton.2 (by decide)⟩⟩
  have separatorUpper : IsUpper separator :=
    upper_of_no_halves separator (fun unit member => (plain unit (marks unit member)).1)
      fun unit member => (plain unit (marks unit member)).2
  have apart (unit other : Char) (member : unit ∈ separator) :
      ¬IsLowerPair unit other ∧ ¬IsLowerPair other unit := by
    obtain ⟨front, behind⟩ := whole_no_pair unit other (plain unit (marks unit member)).2
    exact ⟨not_lower_of_no_pair _ _ front, not_lower_of_no_pair _ _ behind⟩
  apply join_nonempty_keeps IsUpper separator UnitText.empty_is_upper.identifier ?_ pieces upper
  intro left right leftUpper rightUpper _ _
  apply (leftUpper.append separatorUpper ?_).append rightUpper ?_
  · intro high _ low first
    exact (apart low high (List.mem_of_head? first)).2
  · intro high last low _
    rw [List.getLast?_append_of_ne_nil _ given] at last
    exact (apart high low (List.mem_of_getLast? last)).1

/-- The pieces of a text that two spaces part. -/
def splitAtDoubleSpace : Text → List Text
  | [] => [[]]
  | ' ' :: ' ' :: rest => [] :: splitAtDoubleSpace rest
  | letter :: rest => (splitAtDoubleSpace rest).modifyHead (letter :: ·)

/-- The empty text has no line. -/
def lines (text : Text) : List Text := if text.isEmpty then [] else text.splitAtDoubleSpace

/-- A letter in front of a text is a space before a space only if both are. -/
theorem split_at_double_space_cons (letter : Char) (rest : Text)
    (apart : ¬(letter = ' ' ∧ rest.head? = some ' ')) :
    splitAtDoubleSpace (letter :: rest) = (splitAtDoubleSpace rest).modifyHead (letter :: ·) := by
  apply splitAtDoubleSpace.eq_3
  rintro others rfl rfl
  exact apart ⟨rfl, rfl⟩

theorem split_line_append (line behind : Text) (squeezed : IsSqueezed line)
    (last : line.getLast? ≠ some ' ') :
    splitAtDoubleSpace (line ++ ' ' :: ' ' :: behind) = line :: splitAtDoubleSpace behind := by
  induction line with
  | nil => rfl
  | cons letter rest induction =>
      have tail : rest.getLast? ≠ some ' ' := fun ends => last (by simp [List.getLast?_cons, ends])
      have part := squeezed.part (List.suffix_cons letter rest).isInfix
      have apart : ¬(letter = ' ' ∧ (rest ++ ' ' :: ' ' :: behind).head? = some ' ') := by
        rintro ⟨rfl, begins⟩
        cases rest with
        | nil => exact last rfl
        | cons next others =>
            exact (List.isChain_cons.1 squeezed.apart).1 next rfl ⟨rfl, Option.some.inj begins⟩
      rw [List.cons_append, split_at_double_space_cons _ _ apart, induction part tail]
      rfl

theorem split_line (line : Text) (squeezed : IsSqueezed line) :
    splitAtDoubleSpace line = [line] := by
  induction line with
  | nil => rfl
  | cons letter rest induction =>
      have part := squeezed.part (List.suffix_cons letter rest).isInfix
      have apart : ¬(letter = ' ' ∧ rest.head? = some ' ') := fun both =>
        (List.isChain_cons.1 squeezed.apart).1 ' ' both.2 ⟨both.1, rfl⟩
      rw [split_at_double_space_cons _ _ apart, induction part]
      rfl

theorem split_intercalate (line : Text) (others : List Text)
    (written : ∀ piece ∈ line :: others, IsWritten piece) :
    splitAtDoubleSpace ([' ', ' '].intercalate (line :: others)) = line :: others := by
  induction others generalizing line with
  | nil =>
      rw [List.intercalate_singleton]
      exact split_line line (written line (by simp)).squeezed
  | cons next rest induction =>
      have head := written line (by simp)
      have tail := induction next fun piece member => written piece (.tail _ member)
      rw [List.intercalate_cons_cons, List.append_assoc, List.cons_append, List.cons_append,
        List.nil_append, split_line_append line _ head.squeezed head.last, tail]

theorem lines_join_nonempty (pieces : List Text) (written : ∀ piece ∈ pieces, IsWritten piece) :
    (joinNonempty [' ', ' '] pieces).lines = pieces.filter fun piece => !piece.isEmpty := by
  have kept : ∀ piece ∈ pieces.filter fun piece => !piece.isEmpty, IsWritten piece := by
    intro piece member
    exact written piece (mem_nonempty member).1
  have filled : ∀ piece ∈ pieces.filter fun piece => !piece.isEmpty, piece ≠ [] := by
    intro piece member
    exact (mem_nonempty member).2
  rw [joinNonempty, lines]
  cases parts : pieces.filter fun piece => !piece.isEmpty with
  | nil => rfl
  | cons line others =>
      rw [parts] at kept filled
      have given := intercalate_ne_nil [' ', ' '] line others (filled line (by simp))
      rw [if_neg (by simpa using given), split_intercalate line others kept]

example : lines "350 FIFTH AVE  STE 3300  NEW YORK, NY 10118".toList =
    ["350 FIFTH AVE".toList, "STE 3300".toList, "NEW YORK, NY 10118".toList] := by
  decide

end Text

theorem separator_clear (separator : Text)
    (marks : ∀ letter ∈ separator, letter ∈ [' ', ',', '&'])
    (apart : separator.IsChain fun left right => ¬(left = ' ' ∧ right = ' ')) :
    IsClear separator := by
  have plain : ∀ letter ∈ [' ', ',', '&'], Text.upperCharacter letter = [letter] ∧
      isDroppedMark letter = false ∧ (isBlank letter = true → letter = ' ') := by
    intro letter member
    simp only [List.mem_cons, List.not_mem_nil, or_false] at member
    rcases member with rfl | rfl | rfl <;> decide
  have unmarked (mark : Char) (dropped : isDroppedMark mark = true) : mark ∉ separator := by
    intro member
    rw [(plain mark (marks mark member)).2.1] at dropped
    cases dropped
  constructor
  case settled =>
    intro letter member
    exact (plain letter (marks letter member)).1
  case unmarked => exact ⟨unmarked '.' rfl, unmarked '(' rfl, unmarked ')' rfl⟩
  case squeezed =>
    refine ⟨fun letter member => ?_, apart⟩
    exact (plain letter (marks letter member)).2.2

def Bag.HoldsWritten (bag : Bag) : Prop := ∀ component, IsWritten (bag.value component)

theorem Bag.IsStandard.holds_written {bag : Bag} (standard : bag.IsStandard) :
    bag.HoldsWritten := by
  intro component
  by_cases identifier : component = .occupancyIdentifier
  · rw [identifier]
    exact standard.settled.occupancy.identifier.written
  · exact (standard.canonical component identifier).normal.written

theorem StandardAddress.side_holds_written (bag : Bag) : (sideComponents bag).HoldsWritten := by
  intro component
  exact (side_canonical bag component).normal.written

namespace Bag.HoldsWritten

variable {bag : Bag} (written : bag.HoldsWritten)

include written

theorem join_fields (fields : List Component) :
    IsWritten (Text.joinNonempty [' '] (fields.map bag.value)) := by
  apply Text.join_nonempty_written [' '] (separator_clear _ (by simp) (by simp))
  intro piece member
  obtain ⟨component, _, rfl⟩ := List.mem_map.1 member
  exact written component

theorem entry (value : Text) (member : value ∈ bag.entries.map Prod.snd) : IsWritten value := by
  obtain ⟨⟨component, held⟩, listed, rfl⟩ := List.mem_map.1 member
  have found := (bag.mem_entries_iff component held).1 listed
  have valued : bag.value component = held := by rw [Bag.value, found, Option.getD_some]
  exact valued ▸ written component

end Bag.HoldsWritten

structure Place.IsWritten (place : Place) : Prop where
  city : PostalAddress.IsWritten place.city
  state : PostalAddress.IsWritten place.state
  zipCode : PostalAddress.IsWritten place.zipCode

theorem Place.IsWritten.line {place : Place} (written : place.IsWritten) :
    PostalAddress.IsWritten place.line := by
  have front : PostalAddress.IsWritten (Text.joinNonempty [',', ' '] [place.city, place.state]) := by
    apply Text.join_nonempty_written _ (separator_clear _ (by simp) (by simp))
    simp [written.city, written.state]
  apply Text.join_nonempty_written _ (separator_clear _ (by simp) (by simp))
  simp [front, written.zipCode]

theorem Place.IsWritten.or_else {first second : Place} (firstWritten : first.IsWritten)
    (secondWritten : second.IsWritten) : (first.orElse second).IsWritten := by
  constructor <;> simp only [Place.orElse] <;> split
  case city.isTrue => exact secondWritten.city
  case city.isFalse => exact firstWritten.city
  case state.isTrue => exact secondWritten.state
  case state.isFalse => exact firstWritten.state
  case zipCode.isTrue => exact secondWritten.zipCode
  case zipCode.isFalse => exact firstWritten.zipCode

namespace StandardAddress

def texts (address : StandardAddress) : List Text :=
  [address.addressLine1, address.addressLine2, address.city, address.state, address.zipCode] ++
    address.components.bags.flatMap fun bag => bag.entries.map Prod.snd

def lastLine (address : StandardAddress) : Text :=
  Place.line ⟨address.city, address.state, address.zipCode⟩

theorem of_lines_written (line1 line2 : Text) (place : Place) (components : Components)
    (line1Written : IsWritten line1) (line2Written : IsWritten line2)
    (placeWritten : place.IsWritten) (held : ∀ bag ∈ components.bags, bag.HoldsWritten) :
    let address := ofLines line1 line2 place components
    (∀ text ∈ address.texts, IsWritten text) ∧
      address.oneLine.lines =
        [address.addressLine1, address.addressLine2, address.lastLine].filter
          fun line => !line.isEmpty := by
  constructor
  · intro text member
    rcases List.mem_append.1 member with inLines | inComponents
    · simp only [ofLines, List.mem_cons, List.not_mem_nil, or_false] at inLines
      rcases inLines with rfl | rfl | rfl | rfl | rfl
      · exact line1Written
      · exact line2Written
      · exact placeWritten.city
      · exact placeWritten.state
      · exact placeWritten.zipCode
    · obtain ⟨bag, listed, inBag⟩ := List.mem_flatMap.1 inComponents
      exact (held bag listed).entry text inBag
  · apply Text.lines_join_nonempty
    simp [line1Written, line2Written, placeWritten.line]

theorem of_bag_place_written (bag : Bag) (held : bag.HoldsWritten) : (Place.ofBag bag).IsWritten :=
  ⟨held .city, held .state, held .zipCode⟩

end StandardAddress

theorem standardize_lines_written (components : Components) :
    let address := standardize components
    (∀ text ∈ address.texts, IsWritten text) ∧
      address.oneLine.lines =
        [address.addressLine1, address.addressLine2, address.lastLine].filter
          fun line => !line.isEmpty := by
  cases components with
  | single bag =>
      have held := (StandardAddress.single_components_standard bag).holds_written
      apply StandardAddress.of_lines_written
      case line1Written =>
        split
        case isTrue => exact held.join_fields [.boxType, .boxId]
        case isFalse => exact held.join_fields _
      case line2Written => exact held.join_fields _
      case placeWritten => exact StandardAddress.of_bag_place_written _ held
      case held =>
        intro other member
        rw [List.mem_singleton.1 member]
        exact held
  | pair first second =>
      have firstHeld := StandardAddress.side_holds_written first
      have secondHeld := StandardAddress.side_holds_written second
      apply StandardAddress.of_lines_written
      case line1Written =>
        apply Text.join_nonempty_written _ (separator_clear _ (by simp) (by simp))
        intro piece member
        rcases List.mem_pair.1 member with rfl | rfl
        · exact firstHeld.join_fields _
        · exact secondHeld.join_fields _
      case line2Written => exact UnitText.empty_normal.written
      case placeWritten =>
        exact (StandardAddress.of_bag_place_written _ firstHeld).or_else
          (StandardAddress.of_bag_place_written _ secondHeld)
      case held =>
        intro other member
        rcases List.mem_pair.1 member with rfl | rfl
        · exact firstHeld
        · exact secondHeld

namespace Bag.IsUpper

variable {bag : Bag} (upper : bag.IsUpper)

include upper

theorem join_fields (fields : List Component) :
    (Text.joinNonempty [' '] (fields.map bag.value)).IsUpper := by
  apply Text.join_nonempty_upper [' '] (by simp) (by simp)
  intro piece member
  obtain ⟨component, _, rfl⟩ := List.mem_map.1 member
  exact upper component

end Bag.IsUpper

theorem Place.or_else_upper (first second : Bag) (firstUpper : first.IsUpper)
    (secondUpper : second.IsUpper) :
    let place := (Place.ofBag first).orElse (.ofBag second)
    place.city.IsUpper ∧ place.state.IsUpper ∧ place.zipCode.IsUpper := by
  have either (component : Component) : Text.IsUpper
      (if (first.value component).isEmpty then second.value component
        else first.value component) := by
    by_cases lacking : (first.value component).isEmpty = true
    · rw [if_pos lacking]
      exact secondUpper component
    · rw [if_neg lacking]
      exact firstUpper component
  exact ⟨either .city, either .state, either .zipCode⟩

theorem Bag.upper_of_entries (bag : Bag)
    (upper : ∀ text ∈ bag.entries.map Prod.snd, text.IsUpper) : bag.IsUpper := by
  intro component
  cases found : bag.get component with
  | none =>
      rw [Bag.value, found]
      exact UnitText.empty_is_upper.identifier
  | some text =>
      rw [Bag.value, found]
      exact upper text (List.mem_map_of_mem ((bag.mem_entries_iff component text).2 found))

theorem Bag.IsUpper.entry {bag : Bag} (upper : bag.IsUpper) (text : Text)
    (member : text ∈ bag.entries.map Prod.snd) : text.IsUpper := by
  obtain ⟨⟨component, held⟩, listed, rfl⟩ := List.mem_map.1 member
  have found := (bag.mem_entries_iff component held).1 listed
  have valued : bag.value component = held := by rw [Bag.value, found, Option.getD_some]
  exact valued ▸ upper component

namespace StandardAddress

/-- The texts of an address are in uppercase exactly if its components are. -/
theorem of_lines_upper_iff (line1 line2 : Text) (place : Place) (components : Components)
    (lines : components.IsUpper → line1.IsUpper ∧ line2.IsUpper ∧ place.city.IsUpper ∧
      place.state.IsUpper ∧ place.zipCode.IsUpper) :
    (∀ text ∈ (ofLines line1 line2 place components).texts, text.upper = text) ↔
      components.IsUpper := by
  simp only [Text.upper_eq_self_iff]
  constructor
  · intro upper bag member
    apply bag.upper_of_entries
    intro text inBag
    exact upper text (List.mem_append_right _ (List.mem_flatMap.2 ⟨bag, member, inBag⟩))
  · intro upper text member
    obtain ⟨upper1, upper2, city, state, zipCode⟩ := lines upper
    rcases List.mem_append.1 member with inLines | inComponents
    · simp only [ofLines, List.mem_cons, List.not_mem_nil, or_false] at inLines
      rcases inLines with rfl | rfl | rfl | rfl | rfl
      · exact upper1
      · exact upper2
      · exact city
      · exact state
      · exact zipCode
    · obtain ⟨bag, listed, inBag⟩ := List.mem_flatMap.1 inComponents
      exact (upper bag listed).entry text inBag

end StandardAddress

theorem standardize_texts_upper_iff (components : Components) :
    (∀ text ∈ (standardize components).texts, text.upper = text) ↔
      (standardize components).components.IsUpper := by
  cases components with
  | single bag =>
      apply StandardAddress.of_lines_upper_iff
      intro upper
      have held := upper _ (.head _)
      refine ⟨?_, held.join_fields _, held .city, held .state, held .zipCode⟩
      split
      case isTrue => exact held.join_fields [.boxType, .boxId]
      case isFalse => exact held.join_fields _
  | pair first second =>
      apply StandardAddress.of_lines_upper_iff
      intro upper
      have firstHeld := upper (StandardAddress.sideComponents first) (by simp [Components.bags])
      have secondHeld := upper (StandardAddress.sideComponents second) (by simp [Components.bags])
      refine ⟨?_, UnitText.empty_is_upper.identifier,
        Place.or_else_upper _ _ firstHeld secondHeld⟩
      apply Text.join_nonempty_upper _ (by simp) (by simp)
      intro piece member
      rcases List.mem_pair.1 member with rfl | rfl
      · exact firstHeld.join_fields _
      · exact secondHeld.join_fields _

/-- Every text of a standard address but the single line is in the form of a label, and the single
line is read back into the lines that are not empty. All are in uppercase exactly if the components
are. -/
theorem standardize_written (components : Components) :
    let address := standardize components
    (∀ text ∈ address.texts, IsWritten text) ∧
      address.oneLine.lines =
        [address.addressLine1, address.addressLine2, address.lastLine].filter
          (fun line => !line.isEmpty) ∧
      ((∀ text ∈ address.texts, text.upper = text) ↔ address.components.IsUpper) ∧
      (components.JoinNoHalves → address.components.IsUpper) := by
  obtain ⟨written, lines⟩ := standardize_lines_written components
  exact ⟨written, lines, standardize_texts_upper_iff components, standardize_is_upper components⟩

theorem split_city_in_lower_case :
    ¬∀ text ∈ (standardize (.single (Bag.empty.set .city Text.splitLetter))).texts,
      text.upper = text := by
  decide +kernel

end PostalAddress
