import PostalAddress.Proofs.NormalForm

/-!
Where a normal form is not in uppercase. Marks are dropped after the letters were put in uppercase,
so two halves that only marks part make a letter that no one looked at. A value is normalized to
the uppercase it should have exactly if no two halves of it come together to a letter in lower
case. A text whose halves are all in pairs has none that could.
-/

namespace PostalAddress

namespace Text

def isWellFormed : Text → Bool
  | high :: low :: rest =>
      if isPair high low then isWellFormed rest else !isHalf high && isWellFormed (low :: rest)
  | [unit] => !isHalf unit
  | [] => true

/-- The letter U+10428, which is in lower case, with a period between its halves. -/
def splitLetter : Text := [ofUnit 0xD801, '.', ofUnit 0xDC28]

theorem is_upper_cons_iff (unit : Char) (rest : Text) :
    IsUpper (unit :: rest) ↔ upperCharacter unit = [unit] ∧ IsUpper rest ∧
      ∀ low ∈ rest.head?, ¬IsLowerPair unit low := by
  have single : IsUpper [unit] ↔ upperCharacter unit = [unit] :=
    ⟨fun isUpper => isUpper.units unit (by simp), fun settled => ⟨by simpa using settled, by simp⟩⟩
  rw [← List.singleton_append, is_upper_append_iff, single]
  simp

end Text

/-- Two halves make a letter in lower case once the marks between them are dropped. -/
def JoinsHalves (value : Text) : Prop :=
  ∃ before high marks low behind, value = before ++ high :: (marks ++ low :: behind) ∧
    marks ≠ [] ∧ (∀ mark ∈ marks, isDroppedMark mark = true) ∧ Text.IsLowerPair high low

theorem JoinsHalves.behind {value : Text} (joins : JoinsHalves value) (front : Text) :
    JoinsHalves (front ++ value) := by
  obtain ⟨before, high, marks, low, behind, rfl, given, dropped, lower⟩ := joins
  exact ⟨front ++ before, high, marks, low, behind, by simp, given, dropped, lower⟩

theorem is_upper_surrounded_iff (before text behind : Text)
    (edgesBefore : ∀ letter ∈ before, isEdgeMark letter = true)
    (edgesBehind : ∀ letter ∈ behind, isEdgeMark letter = true) :
    (before ++ text ++ behind).IsUpper ↔ text.IsUpper := by
  constructor
  · intro isUpper
    exact isUpper.part ⟨before, behind, rfl⟩
  · intro isUpper
    apply ((edges_upper before edgesBefore).append isUpper ?_).append (edges_upper behind edgesBehind)
    · intro high _ low first
      exact (edge_apart low high (edgesBehind low (List.mem_of_head? first))).2
    · intro high last low _
      exact (edge_apart high low (edgesBefore high (List.mem_of_getLast? last))).1

theorem squeeze_is_upper_iff (text : Text) : (Text.squeeze text).IsUpper ↔ text.IsUpper := by
  have edgeFront (edge : Char) (rest : Text) (isEdge : isEdgeMark edge = true) :
      Text.IsUpper (edge :: rest) ↔ Text.IsUpper rest := by
    have parted := is_upper_surrounded_iff [edge] rest [] (by simpa using isEdge) (by simp)
    simpa using parted
  induction text with
  | nil => rfl
  | cons letter rest induction =>
      rw [Text.squeeze]
      split
      case isTrue blank =>
        have spaces : ∀ other ∈ (Text.squeeze rest).takeWhile (· = ' '), isEdgeMark other = true := by
          intro other member
          have same : other = ' ' := by simpa using List.mem_takeWhile_imp member
          rw [same]
          decide
        have parted := is_upper_surrounded_iff _ ((Text.squeeze rest).dropWhile (· = ' ')) [] spaces
          (by simp)
        rw [List.append_nil, List.takeWhile_append_dropWhile] at parted
        exact ((edgeFront ' ' _ (by decide)).trans (parted.symm.trans induction)).trans
          (edgeFront letter rest (blank_edge letter blank)).symm
      case isFalse =>
        rw [Text.is_upper_cons_iff, Text.is_upper_cons_iff]
        -- The heads are the same, or both are blank and in no pair.
        refine and_congr_right' (and_congr induction ?_)
        cases rest with
        | nil => rfl
        | cons next others =>
            by_cases blank : isBlank next = true
            · have apart := (edge_apart next letter (blank_edge next blank)).2
              have space := (edge_apart ' ' letter (by decide)).2
              simp [Text.squeeze, blank, apart, space]
            · simp [Text.squeeze, blank]

theorem normalize_is_upper_iff_unmarked (value : Text) :
    (normalize value).IsUpper ↔ (unmarkedUpper value).IsUpper := by
  obtain ⟨before, behind, parts, edgesBefore, edgesBehind⟩ :=
    Text.trim_where_parts isEdgeMark (Text.squeeze (unmarkedUpper value))
  rw [← squeeze_is_upper_iff (unmarkedUpper value), parts,
    is_upper_surrounded_iff _ _ _ edgesBefore edgesBehind]
  rfl

theorem mark_no_half (mark : Char) (dropped : isDroppedMark mark = true) :
    Text.isHalf mark = false := by
  by_contra half
  rw [(half_unchanged mark (by simpa using half)).1] at dropped
  cases dropped

theorem mark_sign (mark : Char) (dropped : isDroppedMark mark = true) : mark.toNat < 65 := by
  simp only [isDroppedMark, Bool.or_eq_true, decide_eq_true_eq] at dropped
  rcases dropped with (rfl | rfl) | rfl <;> decide

theorem mark_settled (mark : Char) (dropped : isDroppedMark mark = true) :
    Text.upperCharacter mark = [mark] := by
  simp only [isDroppedMark, Bool.or_eq_true, decide_eq_true_eq] at dropped
  rcases dropped with (rfl | rfl) | rfl <;> decide

theorem unmarked_upper_dropped (mark : Char) (rest : Text) (dropped : isDroppedMark mark = true) :
    unmarkedUpper (mark :: rest) = unmarkedUpper rest := by
  have alone : ∀ low ∈ rest.head?, Text.isPair mark low = false := fun low _ =>
    (Text.whole_no_pair mark low (mark_no_half mark dropped)).1
  rw [unmarkedUpper, Text.upper_cons mark rest alone, mark_settled mark dropped,
    List.singleton_append, List.filter_cons_of_neg (by simp [dropped])]
  rfl

theorem unmarked_upper_kept (unit : Char) (rest : Text) (kept : isDroppedMark unit = false)
    (alone : ∀ low ∈ rest.head?, Text.isPair unit low = false) :
    unmarkedUpper (unit :: rest) = Text.upperCharacter unit ++ unmarkedUpper rest := by
  have images : (Text.upperCharacter unit).filter (fun image => !isDroppedMark image) =
      Text.upperCharacter unit := by
    rw [List.filter_eq_self]
    intro image member
    by_contra marked
    have dropped : isDroppedMark image = true := by simpa using marked
    rw [← Text.sign_of_upper_character unit image member (mark_sign image dropped), dropped] at kept
    cases kept
  rw [unmarkedUpper, Text.upper_cons unit rest alone, List.filter_append, images]
  rfl

theorem unmarked_upper_pair (high low : Char) (rest : Text)
    (pair : Text.isPair high low = true) :
    ∃ front second, unmarkedUpper (high :: low :: rest) = [front, second] ++ unmarkedUpper rest ∧
      Text.isPair front second = true ∧ Text.IsUpper [front, second] := by
  obtain ⟨front, second, units, paired, _⟩ := Text.upper_pair_cases high low pair
  obtain ⟨frontHalf, secondHalf⟩ := Text.pair_halves front second paired
  refine ⟨front, second, ?_, paired, units ▸ Text.upper_pair_upper high low pair⟩
  rw [unmarkedUpper, Text.upper, if_pos pair, units, List.filter_append]
  simp [half_unchanged, frontHalf, secondHalf, unmarkedUpper]

theorem unmarked_upper_marks (marks rest : Text)
    (dropped : ∀ mark ∈ marks, isDroppedMark mark = true) :
    unmarkedUpper (marks ++ rest) = unmarkedUpper rest := by
  induction marks with
  | nil => rfl
  | cons mark others induction =>
      rw [List.cons_append, unmarked_upper_dropped mark _ (dropped mark (.head _))]
      exact induction fun other member => dropped other (.tail _ member)

/-- What a unit that is no mark becomes stands in front, and is a low half only if the unit is. -/
theorem unmarked_upper_front (unit : Char) (rest : Text) (kept : isDroppedMark unit = false) :
    ∃ first others, unmarkedUpper (unit :: rest) = first :: others ∧
      (Text.isLowHalf first = true → first = unit) := by
  by_cases alone : ∀ low ∈ rest.head?, Text.isPair unit low = false
  · obtain ⟨first, others, image⟩ := List.exists_cons_of_ne_nil (Text.upper_character_ne_nil unit)
    refine ⟨first, others ++ unmarkedUpper rest, ?_, fun low => ?_⟩
    · rw [unmarked_upper_kept unit rest kept alone, image]
      rfl
    · exact Text.half_of_upper_character unit first (by simp [image]) (by simp [Text.isHalf, low])
  · obtain ⟨low, front, pair⟩ : ∃ low ∈ rest.head?, Text.isPair unit low = true := by
      simpa using alone
    obtain ⟨others, rfl⟩ := List.head?_eq_some_iff.1 front
    obtain ⟨high, second, units, paired, _⟩ := unmarked_upper_pair unit low others pair
    refine ⟨high, second :: unmarkedUpper others, units, fun isLow => ?_⟩
    have isHigh := (Bool.and_eq_true_iff.1 paired).1
    rw [Text.low_not_high high isLow] at isHigh
    cases isHigh

/-- A low half comes to the front over marks alone. -/
theorem unmarked_upper_head_low (text : Text) (low : Char)
    (first : low ∈ (unmarkedUpper text).head?) (half : Text.isLowHalf low = true) :
    ∃ marks behind, text = marks ++ low :: behind ∧
      ∀ mark ∈ marks, isDroppedMark mark = true := by
  induction text with
  | nil => cases first
  | cons unit rest induction =>
      by_cases dropped : isDroppedMark unit = true
      · rw [unmarked_upper_dropped unit rest dropped] at first
        obtain ⟨marks, behind, rfl, allDropped⟩ := induction first
        exact ⟨unit :: marks, behind, rfl, List.forall_mem_cons.2 ⟨dropped, allDropped⟩⟩
      · obtain ⟨image, others, same, isUnit⟩ :=
          unmarked_upper_front unit rest (by simpa using dropped)
        rw [same] at first
        cases first
        exact ⟨[], rest, by rw [isUnit half]; rfl, by simp⟩

theorem unmarked_upper_of_joined (before high marks low behind)
    (dropped : ∀ mark ∈ marks, isDroppedMark mark = true) (given : marks ≠ [])
    (pair : Text.isPair high low = true) :
    unmarkedUpper (before ++ high :: (marks ++ low :: behind)) =
      unmarkedUpper before ++ high :: low :: unmarkedUpper behind := by
  obtain ⟨highHalf, lowHalf⟩ := Text.pair_halves high low pair
  obtain ⟨isHigh, isLow⟩ := Bool.and_eq_true_iff.1 pair
  have kept (half : Char) (isHalf : Text.isHalf half = true) (rest : Text)
      (alone : ∀ next ∈ rest.head?, Text.isPair half next = false) :
      unmarkedUpper (half :: rest) = half :: unmarkedUpper rest := by
    rw [unmarked_upper_kept half rest (half_unchanged half isHalf).1 alone,
      Text.upper_character_half half isHalf, List.singleton_append]
  rw [unmarked_upper_append before, kept high highHalf, unmarked_upper_marks marks _ dropped,
    kept low lowHalf]
  · intro next _
    simp [Text.isPair, Text.low_not_high low isLow]
  · intro next first
    rw [List.head?_append_of_ne_nil _ given] at first
    have mark := mark_no_half next (dropped next (List.mem_of_head? first))
    exact (Text.whole_no_pair next high mark).2
  · intro last _ next first
    cases first
    apply Text.not_lower_of_no_pair
    simp [Text.isPair, Text.high_not_low high isHigh]

theorem unmarked_is_upper (value : Text) (apart : ¬JoinsHalves value) :
    (unmarkedUpper value).IsUpper := by
  induction value using Text.upper.induct with
  | case1 high low rest pair induction =>
      obtain ⟨front, second, image, paired, isUpper⟩ := unmarked_upper_pair high low rest pair
      have isLow := (Bool.and_eq_true_iff.1 paired).2
      rw [image]
      apply isUpper.append (induction fun joins => apart (joins.behind [high, low]))
      intro last member next _
      have same : second = last := by simpa using member
      apply Text.not_lower_of_no_pair
      simp [← same, Text.isPair, Text.low_not_high second isLow]
  | case2 high low rest unpaired induction =>
      have tail := induction fun joins => apart (joins.behind [high])
      by_cases dropped : isDroppedMark high = true
      · rwa [unmarked_upper_dropped high _ dropped]
      · rw [unmarked_upper_kept high _ (by simpa using dropped) (by simpa using unpaired),
          Text.is_upper_append_iff]
        refine ⟨Text.upper_character_upper high, tail, fun last ends first begins both => ?_⟩
        obtain ⟨lastHalf, _⟩ := Text.pair_halves last first both.pair
        have same := Text.half_of_upper_character high last (List.mem_of_getLast? ends) lastHalf
        obtain ⟨marks, behind, parted, allDropped⟩ :=
          unmarked_upper_head_low _ first begins (Bool.and_eq_true_iff.1 both.pair).2
        rw [same] at both
        refine apart ⟨[], high, marks, first, behind, by rw [parted]; rfl, ?_, allDropped, both⟩
        rintro rfl
        cases parted
        exact unpaired both.pair
  | case3 unit =>
      by_cases dropped : isDroppedMark unit = true
      · rw [unmarked_upper_dropped unit [] dropped]
        exact ⟨by simp [unmarkedUpper, Text.upper], List.isChain_nil⟩
      · rw [unmarked_upper_kept unit [] (by simpa using dropped) (by simp)]
        exact (List.append_nil _).symm ▸ Text.upper_character_upper unit
  | case4 => exact ⟨by simp [unmarkedUpper, Text.upper], List.isChain_nil⟩

/-- A normal form is in uppercase unless halves of the value meet over a mark. -/
theorem normalize_is_upper_iff (value : Text) :
    (normalize value).IsUpper ↔ ¬JoinsHalves value := by
  rw [normalize_is_upper_iff_unmarked]
  constructor
  · rintro isUpper ⟨before, high, marks, low, behind, rfl, given, dropped, both⟩
    rw [unmarked_upper_of_joined before high marks low behind dropped given both.pair] at isUpper
    exact (List.isChain_cons_cons.1 isUpper.pairs.right_of_append).1 both
  · exact unmarked_is_upper value

instance (value : Text) : Decidable (JoinsHalves value) :=
  decidable_of_iff (normalize value ≠ (normalize value).upper) (by
    rw [← not_iff_not, ← normalize_is_upper_iff, ← Text.upper_eq_self_iff, not_not, eq_comm])

theorem unmarked_joins_none (value : Text)
    (unmarked : ∀ letter ∈ value, isDroppedMark letter = false) : ¬JoinsHalves value := by
  rintro ⟨before, high, marks, low, behind, rfl, given, dropped, _⟩
  obtain ⟨mark, others, rfl⟩ := List.exists_cons_of_ne_nil given
  have kept := unmarked mark (by simp)
  rw [dropped mark (.head _)] at kept
  cases kept

theorem Text.well_formed_apart (before : Text) (high next : Char) (behind : Text)
    (isHigh : isHighHalf high = true) (unpaired : isPair high next = false) :
    isWellFormed (before ++ high :: next :: behind) = false := by
  have half : isHalf high = true := by simp [isHalf, isHigh]
  induction before using isWellFormed.induct with
  | case1 first second rest pair induction =>
      simp only [List.cons_append, isWellFormed, pair, if_true, induction]
  | case2 first second rest alone induction =>
      rw [List.cons_append] at induction
      simp only [List.cons_append, isWellFormed, alone, Bool.false_eq_true, if_false, induction,
        Bool.and_false]
  | case3 unit =>
      have alone : isPair unit high = false := by simp [isPair, high_not_low high isHigh]
      simp [isWellFormed, alone, unpaired, half]
  | case4 => simp [isWellFormed, unpaired, half]

theorem well_formed_joins_none (value : Text) (wellFormed : value.isWellFormed = true) :
    ¬JoinsHalves value := by
  rintro ⟨before, high, marks, low, behind, rfl, given, dropped, both⟩
  obtain ⟨mark, others, rfl⟩ := List.exists_cons_of_ne_nil given
  have unpaired := (Text.whole_no_pair mark high (mark_no_half mark (dropped mark (.head _)))).2
  rw [List.cons_append, Text.well_formed_apart before high mark _
    (Bool.and_eq_true_iff.1 both.pair).1 unpaired] at wellFormed
  cases wellFormed

end PostalAddress
