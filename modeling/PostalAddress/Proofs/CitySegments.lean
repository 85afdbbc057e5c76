import PostalAddress.Proofs.CommaLoop
import PostalAddress.Proofs.FreeSlots
import PostalAddress.Proofs.StreetWords

/-!
Which segments in front of a city are taken off, and where their units go. A segment that begins
with a designator is stored word for word in the next free slot, and is lost only if both are
occupied. Any other one is taken off only if it is a single word of no table. The first segment
that is neither stays with all that is behind it, and so does a blank one, and one behind whose
comma nothing but blanks is left.
-/

namespace PostalAddress

namespace CitySegment

/-- The first word of a segment, where only a space parts words. -/
def word (segment : Text) : Text := segment.trim.takeWhile (· ≠ ' ')

def remainder (segment : Text) : Text := Text.trim (segment.trim.dropWhile (· ≠ ' '))

def unit? (segment : Text) : Option UnitText :=
  if units.contains (normalize (word segment)) then some ⟨word segment, remainder segment⟩ else none

/-- A single word that is in no table. -/
structure IsWayfinding (segment : Text) : Prop where
  noSpace : ' ' ∉ segment.trim
  unknown : ∀ table ∈ [suffixes, directionals, states, units],
    table.contains (normalize segment.trim) = false

/-- A segment that is taken off in front of the text behind its comma. -/
structure IsTaken (segment behind : Text) : Prop where
  solid : segment.isAllBlank = false
  followed : behind.isAllBlank = false
  kind : (unit? segment).isSome = true ∨ IsWayfinding segment

/-- Each segment could be taken, and the first one that stays cannot, unless no comma follows it. -/
structure AreTaken (taken remaining : List Text) : Prop where
  each : ∀ front segment back, taken = front ++ segment :: back →
    IsTaken segment (joinSegments (back ++ remaining))
  stopped : ∃ segment rest, remaining = segment :: rest ∧
    (rest = [] ∨ ¬IsTaken segment (joinSegments rest))

theorem head_word_eq (segment : Text) :
    Text.headWord segment = (word segment, remainder segment) := by
  rw [Text.headWord, word, remainder]
  cases cut : Text.cutAt? (· = ' ') segment.trim with
  | none =>
      have absent := (Text.cut_at_eq_none_iff ' ' _).1 cut
      obtain ⟨whole, nothing⟩ := Text.take_while_uncut ' ' _ absent
      rw [whole, nothing]
      rfl
  | some parts =>
      obtain ⟨parted, absent⟩ := (Text.cut_at_eq_some_iff ' ' _ parts.1 parts.2).1 cut
      obtain ⟨front, back⟩ := Text.take_while_cut ' ' parts.1 parts.2 absent
      have blank : ∀ letter ∈ [' '], isBlank letter = true := List.forall_mem_singleton.2 rfl
      have space := Text.trim_surrounded [' '] parts.2 [] blank (by simp)
      rw [List.append_nil, List.singleton_append] at space
      rw [parted, front, back, space]

theorem remainder_eq_nil_iff (segment : Text) : remainder segment = [] ↔ ' ' ∉ segment.trim := by
  constructor
  · intro empty member
    obtain ⟨before, behind, parted, absent⟩ := List.eq_append_cons_of_mem member
    rw [remainder, parted, (Text.take_while_cut ' ' before behind absent).2] at empty
    -- A trimmed text does not end in blanks, so the space cannot be followed by nothing else.
    have blank := (Text.trim_eq_nil_iff _).1 empty
    have last : ∀ letter ∈ segment.trim.getLast?, isBlank letter = false :=
      Text.last_trim_where isBlank segment
    have end? : segment.trim.getLast? = some ((' ' :: behind).getLast (List.cons_ne_nil _ _)) := by
      rw [parted, List.getLast?_append_of_ne_nil _ (List.cons_ne_nil _ _),
        List.getLast?_eq_some_getLast]
    have solid := last _ end?
    rw [List.all_eq_true.1 blank _ (List.getLast_mem _)] at solid
    cases solid
  · intro absent
    rw [remainder, (Text.take_while_uncut ' ' _ absent).2]
    rfl

theorem wayfinding_iff (segment : Text) :
    IsWayfinding segment ↔ remainder segment = [] ∧ isPostalTerm (word segment) = false := by
  rw [remainder_eq_nil_iff]
  have unknown (noSpace : ' ' ∉ segment.trim) : isPostalTerm (word segment) = false ↔
      ∀ table ∈ [suffixes, directionals, states, units],
        table.contains (normalize segment.trim) = false := by
    rw [word, (Text.take_while_uncut ' ' _ noSpace).1, isPostalTerm, List.any_eq_false]
    simp only [AbbreviationTable.recognizes, Bool.not_eq_true]
  constructor
  · intro wayfinding
    exact ⟨wayfinding.noSpace, (unknown wayfinding.noSpace).2 wayfinding.unknown⟩
  · intro ⟨noSpace, absent⟩
    exact ⟨noSpace, (unknown noSpace).1 absent⟩

theorem of_text_cases (segment : Text) :
    (∃ unit, unit? segment = some unit ∧
        ofText segment = .unit unit.designator unit.identifier) ∨
      unit? segment = none ∧ IsWayfinding segment ∧ ofText segment = .wayfinding ∨
      unit? segment = none ∧ ¬IsWayfinding segment ∧ ofText segment = .cityName := by
  simp only [ofText, head_word_eq, unit?, AbbreviationTable.recognizes, wayfinding_iff]
  cases known : units.contains (normalize (word segment)) with
  | true => exact .inl ⟨_, rfl, rfl⟩
  | false =>
      right
      by_cases single : remainder segment = [] ∧ isPostalTerm (word segment) = false
      · exact .inl ⟨rfl, single, by simp [single.1, single.2]⟩
      · refine .inr ⟨rfl, single, ?_⟩
        simpa using single

/-- A segment that can be taken off leaves the fields as they are, or stores its unit. -/
theorem take_segment_eq_some_iff (store later : Bag) (segment behind : Text) :
    takeSegment? store segment behind = some later ↔
      IsTaken segment behind ∧ store.storeAll (unit? segment).toList = later := by
  have taken : IsTaken segment behind ↔ segment.isAllBlank = false ∧ behind.isAllBlank = false ∧
      ((unit? segment).isSome = true ∨ IsWayfinding segment) :=
    ⟨fun taken => ⟨taken.solid, taken.followed, taken.kind⟩, fun ⟨solid, followed, kind⟩ =>
      ⟨solid, followed, kind⟩⟩
  rw [takeSegment?, taken]
  cases segment.isAllBlank with
  | true => simp
  | false =>
      cases behind.isAllBlank with
      | true => simp
      | false =>
          rcases of_text_cases segment with ⟨unit, named, read⟩ | ⟨unnamed, wayfinding, read⟩ |
            ⟨unnamed, other, read⟩
          · simp [named, read, Bag.storeAll]
          · simp [unnamed, read, wayfinding, Bag.storeAll]
          · simp [unnamed, read, other]

theorem unit_named (segment behind : Text) (taken : IsTaken segment behind) (unit : UnitText)
    (named : unit? segment = some unit) : unit.designator ≠ [] := by
  have solid := Text.head_word_solid segment taken.solid
  rw [head_word_eq] at solid
  obtain ⟨_, same⟩ := Option.ite_none_right_eq_some.1 named
  cases same
  intro empty
  change word segment = [] at empty
  rw [empty] at solid
  cases solid

end CitySegment

theorem Bag.store_all_append (bag : Bag) (front back : List UnitText) :
    bag.storeAll (front ++ back) = (bag.storeAll front).storeAll back :=
  List.foldl_append

namespace CitySegment

theorem AreTaken.none (segment : Text) (rest : List Text)
    (stays : rest = [] ∨ ¬IsTaken segment (joinSegments rest)) : AreTaken [] (segment :: rest) where
  each front _ _ parted := by cases front <;> cases parted
  stopped := ⟨segment, rest, rfl, stays⟩

theorem AreTaken.cons {taken remaining : List Text} (areTaken : AreTaken taken remaining)
    (segment : Text) (first : IsTaken segment (joinSegments (taken ++ remaining))) :
    AreTaken (segment :: taken) remaining where
  each front other back parted := by
    cases front with
    | nil =>
        cases parted
        exact first
    | cons head others =>
        cases parted
        exact areTaken.each others other back rfl
  stopped := areTaken.stopped

end CitySegment

/-- The segments are parted into those whose units are stored and those that stay. -/
theorem take_segments_parted (store : Bag) (segments : List Text) (given : segments ≠ []) :
    ∃ taken, segments = taken ++ (takeSegments store segments).2 ∧
      (takeSegments store segments).1 = store.storeAll (taken.filterMap CitySegment.unit?) ∧
      CitySegment.AreTaken taken (takeSegments store segments).2 := by
  induction segments generalizing store with
  | nil => exact absurd rfl given
  | cons segment rest induction =>
      by_cases last : rest = []
      · subst last
        exact ⟨[], rfl, rfl, .none segment [] (.inl rfl)⟩
      · rw [take_segments_cons store segment rest last]
        cases taking : takeSegment? store segment (joinSegments rest) with
        | none =>
            refine ⟨[], rfl, rfl, .none segment rest (.inr fun taken => ?_)⟩
            have taken? := (CitySegment.take_segment_eq_some_iff store _ segment _).2 ⟨taken, rfl⟩
            rw [taking] at taken?
            cases taken?
        | some later =>
            obtain ⟨isTaken, stored⟩ :=
              (CitySegment.take_segment_eq_some_iff store later segment _).1 taking
            obtain ⟨taken, parted, units, areTaken⟩ := induction later last
            refine ⟨segment :: taken, ?_, ?_, areTaken.cons segment (parted ▸ isTaken)⟩
            · rw [List.cons_append, ← parted]
            · rw [units, ← stored, ← Bag.store_all_append, List.filterMap_cons]
              cases CitySegment.unit? segment <;> rfl

theorem CitySegment.AreTaken.units_named {taken remaining : List Text}
    (areTaken : AreTaken taken remaining) :
    ∀ unit ∈ taken.filterMap unit?, unit.designator ≠ [] := by
  intro unit member
  obtain ⟨segment, listed, named⟩ := List.mem_filterMap.1 member
  obtain ⟨front, back, parted⟩ := List.append_of_mem listed
  exact unit_named segment _ (areTaken.each front segment back parted) unit named

namespace Text

theorem length_split_on (separator : Char) (text : Text) :
    (text.splitOn separator).length = text.count separator + 1 := by
  induction text using cut_induction separator with
  | uncut text absent => rw [List.splitOn_eq_singleton absent, List.count_eq_zero.2 absent]; rfl
  | cut before behind absent induction =>
      rw [List.splitOn_append_cons_self_of_not_mem absent, List.length_cons, induction,
        List.count_append, List.count_cons_self, List.count_eq_zero.2 absent]
      omega

end Text

/-- What is left of a city behind the segments that were taken off it, and where their units are. -/
structure CityRecovery.IsBehind (recovery : CityRecovery Bag) (bag : Bag) (city : Text)
    (taken remaining : List Text) : Prop where
  parted : city.splitOn ',' = taken ++ remaining
  areTaken : CitySegment.AreTaken taken remaining
  left : recovery.city = if taken = [] then city else (joinSegments remaining).trim
  stored : recovery.store.StoresUnits bag (taken.filterMap CitySegment.unit?)
  rounds : CityRecovery.Rounds taken.length ⟨bag, city⟩ recovery

/-- The segments in front of a city are taken off one by one up to the first that cannot be. A unit
among them is lost only when there is no free slot. -/
theorem city_segments_taken (bag : Bag) (city : Text) :
    ∃ taken remaining,
      (CityRecovery.ofSegments bag city).IsBehind bag city taken remaining := by
  obtain ⟨taken, parted, units, areTaken⟩ :=
    take_segments_parted bag (city.splitOn ',') (List.splitOn_ne_nil ',' city)
  generalize rest : (takeSegments bag (city.splitOn ',')).2 = remaining at parted areTaken
  have sizes := congrArg List.length parted
  rw [List.length_append] at sizes
  have left : (CityRecovery.ofSegments bag city).city =
      if taken = [] then city else (joinSegments remaining).trim := by
    have none : remaining.length = (city.splitOn ',').length ↔ taken = [] := by
      rw [← List.length_eq_zero_iff]
      omega
    simp only [CityRecovery.ofSegments, rest, none]
  have commas : (CityRecovery.ofSegments bag city).city.count ',' + 1 = remaining.length := by
    rw [left]
    split
    case isTrue none =>
      rw [← Text.length_split_on, parted, none, List.nil_append]
    case isFalse =>
      obtain ⟨segment, others, same, _⟩ := areTaken.stopped
      have given : remaining ≠ [] := same ▸ List.cons_ne_nil _ _
      have noComma : ∀ piece ∈ remaining, ',' ∉ piece := by
        intro piece member
        exact Text.split_on_no_separator ',' city piece (parted ▸ List.mem_append_right _ member)
      rw [Text.count_trim ',' (by decide), ← Text.length_split_on, joinSegments,
        List.splitOn_intercalate ',' noComma given]
  refine ⟨taken, remaining, parted, areTaken, left, ?stored, ?rounds⟩
  case stored =>
    have stores := bag.store_all_stores _ areTaken.units_named
    rwa [← units] at stores
  case rounds =>
    obtain ⟨count, run, _⟩ := CityRecovery.comma_rounds_end ⟨bag, city⟩
    have used := run.commas
    have all := Text.length_split_on ',' city
    have same : count = taken.length := by
      dsimp only at used
      omega
    exact same ▸ run

end PostalAddress
