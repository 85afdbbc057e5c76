import PostalAddress.Proofs.CutText
import PostalAddress.Proofs.RecoveredUnits

/-!
The segments in front of a city, taken off comma by comma. A round looks at what stands in front of
the first comma and trims what is behind it for the next round. A run of rounds comes to what unit
recovery takes off at once, and ends there: no round follows, and each one has used up a comma.
-/

namespace PostalAddress

def takeSegment? (store : Bag) (segment behind : Text) : Option Bag :=
  if segment.isAllBlank || behind.isAllBlank then none
  else match CitySegment.ofText segment with
    | .unit designator identifier => some (storeUnit store designator identifier)
    | .wayfinding => some store
    | .cityName => none

theorem CitySegment.of_text_congr (left right : Text) (same : left.trim = right.trim) :
    ofText left = ofText right := by
  rw [ofText, ofText, Text.headWord, Text.headWord, same]

theorem take_segment_congr (store : Bag) (segment behind otherSegment otherBehind : Text)
    (segments : segment.trim = otherSegment.trim) (behinds : behind.trim = otherBehind.trim) :
    takeSegment? store segment behind = takeSegment? store otherSegment otherBehind := by
  rw [takeSegment?, takeSegment?, CitySegment.of_text_congr _ _ segments,
    ← Text.trim_all_blank segment, ← Text.trim_all_blank behind, segments, behinds,
    Text.trim_all_blank, Text.trim_all_blank]

theorem take_segments_cons (store : Bag) (segment : Text) (rest : List Text) (given : rest ≠ []) :
    takeSegments store (segment :: rest) =
      match takeSegment? store segment (joinSegments rest) with
      | some later => takeSegments later rest
      | none => (store, segment :: rest) := by
  rw [takeSegments.eq_def, takeSegment?]
  obtain ⟨next, others, rfl⟩ := List.exists_cons_of_ne_nil given
  dsimp only
  split
  case isTrue => rfl
  case isFalse => cases CitySegment.ofText segment <;> rfl

namespace CityRecovery

/-- A round of the loop, if there is a comma and what stands in front of it can be taken. -/
def passComma? (recovery : CityRecovery Bag) : Option (CityRecovery Bag) :=
  (Text.cutAt? (· = ',') recovery.city).bind fun (segment, behind) =>
    (takeSegment? recovery.store segment behind).map fun store => ⟨store, behind.trim⟩

theorem pass_comma_eq_some_iff (recovery later : CityRecovery Bag) :
    recovery.passComma? = some later ↔
      ∃ segment behind : Text, recovery.city = segment ++ ',' :: behind ∧ ',' ∉ segment ∧
        takeSegment? recovery.store segment behind = some later.store ∧
        later.city = behind.trim := by
  constructor
  · intro passed
    obtain ⟨⟨segment, behind⟩, cut, taken⟩ := Option.bind_eq_some_iff.1 passed
    obtain ⟨store, found, rfl⟩ := Option.map_eq_some_iff.1 taken
    obtain ⟨parted, absent⟩ := (Text.cut_at_eq_some_iff ',' _ _ _).1 cut
    exact ⟨segment, behind, parted, absent, found, rfl⟩
  · rintro ⟨segment, behind, parted, absent, found, trimmed⟩
    have cut := (Text.cut_at_eq_some_iff ',' _ _ _).2 ⟨parted, absent⟩
    cases later
    subst trimmed
    simp [passComma?, cut, found]

def trimmed (recovery : CityRecovery Bag) : CityRecovery Bag :=
  ⟨recovery.store, recovery.city.trim⟩

theorem of_segments_uncut (store : Bag) (city : Text) (absent : ',' ∉ city) :
    ofSegments store city = ⟨store, city⟩ := by
  simp [ofSegments, List.splitOn_eq_singleton absent, takeSegments]

theorem of_segments_cut (store : Bag) (segment behind : Text) (absent : ',' ∉ segment) :
    ofSegments store (segment ++ ',' :: behind) =
      match takeSegment? store segment behind with
      | some later => (ofSegments later behind).trimmed
      | none => ⟨store, segment ++ ',' :: behind⟩ := by
  have split := List.splitOn_append_cons_self_of_not_mem absent behind
  have given := List.splitOn_ne_nil ',' behind
  have joined : joinSegments (behind.splitOn ',') = behind := List.intercalate_splitOn ','
  simp only [ofSegments, split, take_segments_cons store segment _ given, joined]
  cases taken : takeSegment? store segment behind with
  | none => simp
  | some later =>
      have within := take_segments_suffix later (behind.splitOn ',')
      have shorter : (takeSegments later (behind.splitOn ',')).2.length ≠
          (segment :: behind.splitOn ',').length := by
        have bound := within.length_le
        rw [List.length_cons]
        omega
      simp only [shorter, if_false, trimmed]
      split
      case isFalse => rw [Text.trim_trim]
      case isTrue same => rw [within.eq_of_length same, joined]

theorem of_segments_surrounded (store : Bag) (front city back : Text)
    (frontBlank : ∀ letter ∈ front, isBlank letter = true)
    (backBlank : ∀ letter ∈ back, isBlank letter = true) :
    (ofSegments store (front ++ city ++ back)).trimmed = (ofSegments store city).trimmed := by
  have noComma (gap : Text) (blank : ∀ letter ∈ gap, isBlank letter = true) : ',' ∉ gap := by
    intro member
    exact absurd (blank ',' member) (by decide)
  induction city using Text.cut_induction ',' generalizing store front with
  | uncut city absent =>
      have absentAround : ',' ∉ front ++ city ++ back := by
        simp [absent, noComma front frontBlank, noComma back backBlank]
      rw [of_segments_uncut store _ absentAround, of_segments_uncut store _ absent, trimmed,
        trimmed, Text.trim_surrounded front city back frontBlank backBlank]
  | cut segment behind absent induction =>
      have absentAround : ',' ∉ front ++ segment := by simp [absent, noComma front frontBlank]
      have parted : front ++ (segment ++ ',' :: behind) ++ back =
          (front ++ segment) ++ ',' :: (behind ++ back) := by simp
      have sameSegment : (front ++ segment).trim = segment.trim := by
        simpa using Text.trim_surrounded front segment [] frontBlank (by simp)
      have sameBehind : (behind ++ back).trim = behind.trim := by
        simpa using Text.trim_surrounded [] behind back (by simp) backBlank
      have whole := Text.trim_surrounded front (segment ++ ',' :: behind) back frontBlank backBlank
      rw [parted] at whole ⊢
      rw [of_segments_cut store _ _ absentAround, of_segments_cut store _ _ absent,
        take_segment_congr store _ _ _ _ sameSegment sameBehind]
      cases takeSegment? store segment behind with
      | none => simp only [trimmed, whole]
      | some later =>
          have around := induction later [] (by simp)
          simp only [List.nil_append] at around
          simp only [around]

theorem of_segments_trim (store : Bag) (city : Text) :
    ofSegments store city.trim = (ofSegments store city).trimmed := by
  obtain ⟨front, back, parted, frontBlank, backBlank⟩ := Text.trim_parts city
  have around := of_segments_surrounded store front city.trim back frontBlank backBlank
  rw [← parted] at around
  have kept : (ofSegments store city.trim).trimmed = ofSegments store city.trim := by
    simp only [ofSegments, trimmed]
    split <;> rw [Text.trim_trim]
  rw [around, kept]

/-- A round makes no difference to what is taken off in the end. -/
theorem of_segments_round (recovery later : CityRecovery Bag)
    (passed : recovery.passComma? = some later) :
    ofSegments recovery.store recovery.city = ofSegments later.store later.city := by
  obtain ⟨segment, behind, parted, absent, taken, trimmed⟩ :=
    (pass_comma_eq_some_iff recovery later).1 passed
  rw [parted, of_segments_cut _ _ _ absent, taken, trimmed, of_segments_trim]

theorem of_segments_done (recovery : CityRecovery Bag) (ended : recovery.passComma? = none) :
    ofSegments recovery.store recovery.city = recovery := by
  by_cases member : ',' ∈ recovery.city
  case neg => exact of_segments_uncut _ _ member
  case pos =>
    obtain ⟨segment, behind, parted, absent⟩ := List.eq_append_cons_of_mem member
    rw [parted, of_segments_cut _ _ _ absent]
    cases taken : takeSegment? recovery.store segment behind with
    | none => rw [← parted]
    | some store =>
        have passed := (pass_comma_eq_some_iff recovery ⟨store, Text.trim behind⟩).2
          ⟨segment, behind, parted, absent, taken, rfl⟩
        rw [ended] at passed
        cases passed

/-- So many rounds, one behind the other. -/
inductive Rounds : Nat → CityRecovery Bag → CityRecovery Bag → Prop
  | none (recovery : CityRecovery Bag) : Rounds 0 recovery recovery
  | next {count : Nat} {first second last : CityRecovery Bag}
      (passed : first.passComma? = some second) (others : Rounds count second last) :
      Rounds (count + 1) first last

theorem pass_comma_commas (recovery later : CityRecovery Bag)
    (passed : recovery.passComma? = some later) :
    later.city.count ',' + 1 = recovery.city.count ',' := by
  obtain ⟨segment, behind, parted, absent, _, trimmed⟩ :=
    (pass_comma_eq_some_iff recovery later).1 passed
  rw [trimmed, Text.count_trim ',' (by decide), parted, List.count_append, List.count_cons_self,
    List.count_eq_zero.2 absent, Nat.zero_add]

theorem pass_comma_shorter (recovery later : CityRecovery Bag)
    (passed : recovery.passComma? = some later) :
    later.city.length < recovery.city.length := by
  obtain ⟨segment, behind, parted, _, _, trimmed⟩ :=
    (pass_comma_eq_some_iff recovery later).1 passed
  have within : later.city.length ≤ behind.length := by
    rw [trimmed]
    exact (Text.trim_where_within isBlank behind).length_le
  rw [parted, List.length_append, List.length_cons]
  omega

theorem Rounds.commas {count : Nat} {first last : CityRecovery Bag}
    (run : Rounds count first last) : last.city.count ',' + count = first.city.count ',' := by
  induction run with
  | none => rfl
  | next passed _ induction =>
      have used := pass_comma_commas _ _ passed
      omega

theorem Rounds.shorter {count : Nat} {first last : CityRecovery Bag}
    (run : Rounds count first last) : last.city.length + count ≤ first.city.length := by
  induction run with
  | none => exact le_rfl
  | next passed _ induction =>
      have less := pass_comma_shorter _ _ passed
      omega

/-- From every city there is a run that ends, at what is taken off at once. -/
theorem comma_rounds_end (recovery : CityRecovery Bag) :
    ∃ count, Rounds count recovery (ofSegments recovery.store recovery.city) ∧
      (ofSegments recovery.store recovery.city).passComma? = none := by
  induction commas : recovery.city.count ',' using Nat.strong_induction_on
    generalizing recovery with
  | _ commas fewer =>
      cases passed : recovery.passComma? with
      | none =>
          rw [of_segments_done recovery passed]
          exact ⟨0, .none recovery, passed⟩
      | some later =>
          have used := pass_comma_commas recovery later passed
          obtain ⟨count, run, ended⟩ := fewer (later.city.count ',') (by omega) later rfl
          rw [of_segments_round recovery later passed]
          exact ⟨count + 1, .next passed run, ended⟩

end CityRecovery

end PostalAddress
