import PostalAddress.Proofs.CaseTable
import Mathlib.Data.List.Chain

/-!
Text in uppercase stays as it is when it is put in uppercase again. A text is in uppercase if each
of its units is and each pair of halves in it is, so a piece of such a text is in uppercase, and so
is what two of them are joined to unless halves meet where they touch.
-/

namespace PostalAddress.Text

/-- The halves of a letter that has another uppercase. -/
structure IsLowerPair (high low : Char) : Prop where
  pair : isPair high low = true
  lower : upperPair high low ≠ [high, low]

theorem whole_no_pair (unit other : Char) (whole : isHalf unit = false) :
    isPair unit other = false ∧ isPair other unit = false := by
  constructor <;>
  · rw [← Bool.not_eq_true]
    intro pair
    have halves := pair_halves _ _ pair
    simp [whole] at halves

theorem not_lower_of_no_pair (high low : Char) (unpaired : isPair high low = false) :
    ¬IsLowerPair high low := by
  intro both
  rw [both.pair] at unpaired
  cases unpaired

theorem upper_of_not_lower (high low : Char) (settled : ¬IsLowerPair high low)
    (pair : isPair high low = true) : upperPair high low = [high, low] := by
  by_contra lower
  exact settled ⟨pair, lower⟩

/-- Every unit is its own uppercase, and so is every pair of halves. -/
structure IsUpper (text : Text) : Prop where
  units : ∀ unit ∈ text, upperCharacter unit = [unit]
  pairs : text.IsChain fun high low => ¬IsLowerPair high low

theorem IsUpper.part {text part : Text} (isUpper : IsUpper text) (within : part <:+: text) :
    IsUpper part where
  units unit member := isUpper.units unit (within.subset member)
  pairs := isUpper.pairs.infix within

theorem is_upper_append_iff (left right : Text) :
    IsUpper (left ++ right) ↔ IsUpper left ∧ IsUpper right ∧
      ∀ high ∈ left.getLast?, ∀ low ∈ right.head?, ¬IsLowerPair high low := by
  constructor
  · intro isUpper
    refine ⟨isUpper.part (List.prefix_append left right).isInfix,
      isUpper.part (List.suffix_append left right).isInfix, ?_⟩
    exact (List.isChain_append.1 isUpper.pairs).2.2
  · rintro ⟨leftUpper, rightUpper, apart⟩
    refine ⟨fun unit member => ?_, leftUpper.pairs.append rightUpper.pairs apart⟩
    exact (List.mem_append.1 member).elim (leftUpper.units unit) (rightUpper.units unit)

theorem IsUpper.append {left right : Text} (leftUpper : IsUpper left) (rightUpper : IsUpper right)
    (apart : ∀ high ∈ left.getLast?, ∀ low ∈ right.head?, ¬IsLowerPair high low) :
    IsUpper (left ++ right) :=
  (is_upper_append_iff left right).2 ⟨leftUpper, rightUpper, apart⟩

theorem upper_cons (unit : Char) (rest : Text)
    (alone : ∀ low ∈ rest.head?, isPair unit low = false) :
    upper (unit :: rest) = upperCharacter unit ++ upper rest := by
  cases rest with
  | nil => simp [upper]
  | cons low others => simp [upper, alone low rfl]

/-- The uppercase of a text is that of its parts, unless a letter in lower case is cut in two. -/
theorem upper_append (left right : Text)
    (apart : ∀ high ∈ left.getLast?, ∀ low ∈ right.head?, ¬IsLowerPair high low) :
    (left ++ right).upper = left.upper ++ right.upper := by
  induction left using upper.induct with
  | case1 high low rest pair induction =>
      have tail : ∀ last ∈ rest.getLast?, ∀ first ∈ right.head?, ¬IsLowerPair last first := by
        intro last member
        exact apart last (by simp [List.getLast?_cons, Option.mem_def.1 member])
      rw [List.cons_append, List.cons_append, upper, if_pos pair, upper, if_pos pair,
        induction tail, List.append_assoc]
  | case2 high low rest unpaired induction =>
      have tail : ∀ last ∈ (low :: rest).getLast?, ∀ first ∈ right.head?,
          ¬IsLowerPair last first := by
        intro last member
        exact apart last (by simpa using member)
      rw [List.cons_append, List.cons_append, upper, if_neg unpaired, upper, if_neg unpaired,
        ← List.cons_append, induction tail, List.append_assoc]
  | case3 unit =>
      by_cases alone : ∀ low ∈ right.head?, isPair unit low = false
      · exact upper_cons unit right alone
      · obtain ⟨low, front, pair⟩ : ∃ low ∈ right.head?, isPair unit low = true := by
          simpa using alone
        obtain ⟨others, rfl⟩ := List.head?_eq_some_iff.1 front
        obtain ⟨unitHalf, lowHalf⟩ := pair_halves unit low pair
        have settled := upper_of_not_lower unit low (apart unit rfl low front) pair
        have lowAlone : ∀ next ∈ others.head?, isPair low next = false := by
          intro next _
          simp [isPair, low_not_high low (Bool.and_eq_true_iff.1 pair).2]
        rw [List.singleton_append, upper, if_pos pair, settled, upper_cons low others lowAlone,
          upper, upper_character_half unit unitHalf, upper_character_half low lowHalf]
        rfl
  | case4 => rfl

theorem upper_eq_nil_iff (text : Text) : text.upper = [] ↔ text = [] := by
  fun_cases upper text with
  | case1 high low rest pair =>
      obtain ⟨front, behind, image, _⟩ := upper_pair_cases high low pair
      simp [image]
  | case2 => simp [upper_character_ne_nil]
  | case3 => simp [upper_character_ne_nil]
  | case4 => simp

theorem upper_head_low (text : Text) (low : Char) (first : low ∈ text.upper.head?)
    (half : isLowHalf low = true) : text.head? = some low := by
  have single (unit : Char) (rest : Text)
      (front : low ∈ (upperCharacter unit ++ rest).head?) : unit = low := by
    rw [List.head?_append_of_ne_nil _ (upper_character_ne_nil unit)] at front
    exact (half_of_upper_character unit low (List.mem_of_head? front) (by simp [isHalf, half])).symm
  fun_cases upper text with
  | case1 high second rest pair =>
      obtain ⟨front, behind, image, paired, _⟩ := upper_pair_cases high second pair
      rw [upper, if_pos pair, image] at first
      have same : front = low := by simpa using first
      have high := (Bool.and_eq_true_iff.1 paired).1
      rw [same, low_not_high low half] at high
      cases high
  | case2 high second rest unpaired =>
      rw [upper, if_neg unpaired] at first
      rw [single high _ first]
      rfl
  | case3 unit =>
      rw [upper, ← List.append_nil (upperCharacter unit)] at first
      rw [single unit _ first]
      rfl
  | case4 => cases first

theorem upper_character_upper (unit : Char) : IsUpper (upperCharacter unit) := by
  refine ⟨fun image member => upper_character_settled unit image member, ?_⟩
  by_cases half : isHalf unit = true
  · rw [upper_character_half unit half]
    exact List.isChain_singleton unit
  · have pairs : (upperCharacter unit).Pairwise fun high low => ¬IsLowerPair high low := by
      apply List.pairwise_of_forall_mem_list
      intro high member low _ both
      have front := (pair_halves high low both.pair).1
      rw [half_of_upper_character unit high member front] at front
      exact absurd front half
    exact pairs.isChain

theorem upper_pair_upper (high low : Char) (pair : isPair high low = true) :
    IsUpper (upperPair high low) := by
  obtain ⟨front, behind, image, paired, settled⟩ := upper_pair_cases high low pair
  obtain ⟨frontHalf, behindHalf⟩ := pair_halves front behind paired
  rw [image]
  refine ⟨?units, List.isChain_pair.2 fun both => both.lower settled⟩
  simp [upper_character_half, frontHalf, behindHalf]

theorem upper_is_upper (text : Text) : IsUpper text.upper := by
  induction text using upper.induct with
  | case1 high low rest pair induction =>
      obtain ⟨front, behind, image, paired, _⟩ := upper_pair_cases high low pair
      have isLow := (Bool.and_eq_true_iff.1 paired).2
      rw [upper, if_pos pair, is_upper_append_iff]
      refine ⟨upper_pair_upper high low pair, induction, fun last ends first _ => ?_⟩
      rw [image] at ends
      have same : behind = last := by simpa using ends
      apply not_lower_of_no_pair
      simp [← same, isPair, low_not_high behind isLow]
  | case2 high low rest unpaired induction =>
      rw [upper, if_neg unpaired, is_upper_append_iff]
      refine ⟨upper_character_upper high, induction, fun last ends first begins both => ?_⟩
      obtain ⟨lastHalf, _⟩ := pair_halves last first both.pair
      have front := upper_head_low _ first begins (Bool.and_eq_true_iff.1 both.pair).2
      have same := half_of_upper_character high last (List.mem_of_getLast? ends) lastHalf
      cases front
      exact unpaired (same ▸ both.pair)
  | case3 unit =>
      rw [upper]
      exact upper_character_upper unit
  | case4 => exact ⟨by simp [upper], List.isChain_nil⟩

theorem IsUpper.upper {text : Text} (isUpper : IsUpper text) : text.upper = text := by
  induction text using upper.induct with
  | case1 high low rest pair induction =>
      have pairs := isUpper.pairs
      rw [List.isChain_cons_cons] at pairs
      have tail : IsUpper rest :=
        ⟨fun unit member => isUpper.units unit (by simp [member]), pairs.2.tail⟩
      rw [Text.upper, if_pos pair, upper_of_not_lower high low pairs.1 pair, induction tail]
      rfl
  | case2 high low rest unpaired induction =>
      have tail : IsUpper (low :: rest) :=
        ⟨fun unit member => isUpper.units unit (.tail _ member), isUpper.pairs.tail⟩
      rw [Text.upper, if_neg unpaired, isUpper.units high (by simp), induction tail]
      rfl
  | case3 unit => rw [Text.upper, isUpper.units unit (by simp)]
  | case4 => rfl

theorem upper_upper (text : Text) : text.upper.upper = text.upper := (upper_is_upper text).upper

theorem upper_eq_self_iff (text : Text) : text.upper = text ↔ IsUpper text :=
  ⟨fun same => same ▸ upper_is_upper text, IsUpper.upper⟩

theorem upper_of_no_halves (text : Text) (units : ∀ unit ∈ text, upperCharacter unit = [unit])
    (noHalves : ∀ unit ∈ text, isHalf unit = false) : IsUpper text := by
  refine ⟨units, ?_⟩
  have pairs : text.Pairwise fun high low => ¬IsLowerPair high low := by
    apply List.pairwise_of_forall_mem_list
    intro high member low _
    exact not_lower_of_no_pair high low (whole_no_pair high low (noHalves high member)).1
  exact pairs.isChain

theorem mem_upper_settled (text : Text) (letter : Char) (member : letter ∈ text.upper) :
    upperCharacter letter = [letter] :=
  (upper_is_upper text).units letter member

/-- A unit of an uppercase is half of a pair or comes from a unit of the text. -/
theorem mem_upper_cases (text : Text) (image : Char) (member : image ∈ text.upper) :
    isHalf image = true ∨ ∃ unit ∈ text, image ∈ upperCharacter unit := by
  induction text using upper.induct with
  | case1 high low rest pair induction =>
      obtain ⟨front, behind, units, paired, _⟩ := upper_pair_cases high low pair
      obtain ⟨frontHalf, behindHalf⟩ := pair_halves front behind paired
      rw [upper, if_pos pair, units] at member
      rcases List.mem_cons.1 member with rfl | others
      · exact .inl frontHalf
      · rcases List.mem_cons.1 others with rfl | inRest
        · exact .inl behindHalf
        · refine (induction inRest).imp_right fun ⟨unit, listed, inside⟩ => ?_
          exact ⟨unit, by simp [listed], inside⟩
  | case2 high low rest unpaired induction =>
      rw [upper, if_neg unpaired] at member
      rcases List.mem_append.1 member with inFront | behind
      · exact .inr ⟨high, by simp, inFront⟩
      · refine (induction behind).imp_right fun ⟨unit, listed, inside⟩ => ?_
        exact ⟨unit, .tail _ listed, inside⟩
  | case3 unit => exact .inr ⟨unit, by simp, by simpa [upper] using member⟩
  | case4 => cases member

theorem mem_upper_of_settled (text : Text) (unit : Char) (member : unit ∈ text)
    (settled : upperCharacter unit = [unit]) :
    unit ∈ text.upper ∨ ∃ half ∈ text.upper, isHalf half = true := by
  induction text using upper.induct with
  | case1 high low rest pair _ =>
      obtain ⟨front, behind, units, paired, _⟩ := upper_pair_cases high low pair
      refine .inr ⟨front, ?_, (pair_halves front behind paired).1⟩
      rw [upper, if_pos pair, units]
      simp
  | case2 high low rest unpaired induction =>
      rw [upper, if_neg unpaired]
      rcases List.mem_cons.1 member with rfl | others
      · simp [settled]
      · refine (induction others).imp (List.mem_append_right _) fun ⟨half, listed, isHalf⟩ => ?_
        exact ⟨half, List.mem_append_right _ listed, isHalf⟩
  | case3 other =>
      rw [List.mem_singleton.1 member] at settled ⊢
      simp [upper, settled]
  | case4 => cases member

/-- Where every unit is its own uppercase only halves change, into halves. -/
theorem upper_map_of_settled {Image : Type} (text : Text)
    (settled : ∀ unit ∈ text, upperCharacter unit = [unit]) (map : Char → Image)
    (halves : ∀ unit other, isHalf unit = true → isHalf other = true → map unit = map other) :
    text.upper.map map = text.map map := by
  induction text using upper.induct with
  | case1 high low rest pair induction =>
      obtain ⟨front, behind, units, paired, _⟩ := upper_pair_cases high low pair
      obtain ⟨highHalf, lowHalf⟩ := pair_halves high low pair
      obtain ⟨frontHalf, behindHalf⟩ := pair_halves front behind paired
      have others := induction fun unit member => settled unit (by simp [member])
      rw [upper, if_pos pair, units]
      simp [halves front high frontHalf highHalf, halves behind low behindHalf lowHalf, others]
  | case2 high low rest unpaired induction =>
      have others := induction fun unit member => settled unit (.tail _ member)
      rw [upper, if_neg unpaired, settled high (.head _), List.singleton_append, List.map_cons,
        others]
      rfl
  | case3 unit => rw [upper, settled unit (.head _)]
  | case4 => rfl

theorem upper_class_of_settled (text : Text)
    (settled : ∀ unit ∈ text, upperCharacter unit = [unit]) (holds : Char → Bool)
    (halves : ∀ unit, isHalf unit = true → holds unit = false) :
    text.upper.map holds = text.map holds :=
  upper_map_of_settled text settled holds fun unit other unitHalf otherHalf => by
    rw [halves unit unitHalf, halves other otherHalf]

end PostalAddress.Text
