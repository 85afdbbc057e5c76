import PostalAddress.Text.Upper
import Mathlib.Data.Nat.Bitwise

/-!
What the case table says of one unit. The table is closed: nothing that it writes is among the
characters that it changes, and what it writes are letters, so no digit, mark, blank or half of a
pair is the uppercase of anything but itself. It keeps within the basic plane or above it.
-/

namespace PostalAddress.Text

def changedPoints : List Nat :=
  (caseRuns.flatMap fun run =>
      (List.range ((run.last - run.first) / run.step + 1)).map fun index =>
        run.first + index * run.step) ++
    caseExpansions.map Prod.fst

def writtenPoints : List Nat :=
  (caseRuns.flatMap fun run =>
      (List.range ((run.last - run.first) / run.step + 1)).map fun index =>
        run.image + index * run.step) ++
    caseExpansions.flatMap Prod.snd

/-- A set of numbers as the bits of one number, which answers for each member at once. -/
def bitSet (points : List Nat) : Nat := points.foldr (fun point bits => bits ||| 2 ^ point) 0

theorem bit_set_test_bit (points : List Nat) (point : Nat) :
    (bitSet points).testBit point = points.contains point := by
  induction points with
  | nil => simp [bitSet]
  | cons head rest induction =>
      rw [show bitSet (head :: rest) = bitSet rest ||| 2 ^ head from rfl, Nat.testBit_or,
        induction, Nat.testBit_two_pow, List.contains_cons, Bool.or_comm]
      congr 1
      rw [Bool.eq_iff_iff, beq_iff_eq, decide_eq_true_eq, eq_comm]

set_option maxRecDepth 10000 in
theorem written_points_unchanged :
    (writtenPoints.all fun point => !(bitSet changedPoints).testBit point) = true := by
  decide +kernel

set_option maxRecDepth 10000 in
theorem written_points_letters :
    (writtenPoints.all fun point =>
      65 ≤ point && (point < 0xD800 || 0xE000 ≤ point && point < 0x110000) &&
        !(0x1D800 ≤ point && point < 0x1E000)) = true := by
  decide +kernel

theorem written_letter (point : Nat) (written : point ∈ writtenPoints) :
    65 ≤ point ∧ (Char.ofNat point).toNat = point ∧
      ¬(0x1D800 ≤ point ∧ point < 0x1E000) := by
  have listed := List.all_eq_true.1 written_points_letters point written
  simp only [Bool.and_eq_true, Bool.or_eq_true, Bool.not_eq_true', Bool.and_eq_false_iff,
    decide_eq_true_eq, decide_eq_false_iff_not] at listed
  refine ⟨listed.1.1, point_of_valid point (listed.1.2.imp id fun above => ?_), by omega⟩
  exact ⟨by omega, above.2⟩

theorem written_not_changed (point : Nat) (written : point ∈ writtenPoints) :
    point ∉ changedPoints := by
  have unset := List.all_eq_true.1 written_points_unchanged point written
  rw [bit_set_test_bit] at unset
  simpa using unset

theorem CaseRun.covers_index (run : CaseRun) (point : Nat) (covered : run.covers point = true) :
    ∃ index, index < (run.last - run.first) / run.step + 1 ∧
      point = run.first + index * run.step := by
  simp only [CaseRun.covers, Bool.and_eq_true, decide_eq_true_eq] at covered
  obtain ⟨⟨lower, upper⟩, divides⟩ := covered
  refine ⟨(point - run.first) / run.step, ?_, ?_⟩
  · exact Nat.lt_succ_of_le (Nat.div_le_div_right (Nat.sub_le_sub_right upper run.first))
  · rw [Nat.div_mul_cancel (Nat.dvd_of_mod_eq_zero divides)]
    omega

theorem covered_changed (run : CaseRun) (member : run ∈ caseRuns) (point : Nat)
    (covered : run.covers point = true) : point ∈ changedPoints := by
  obtain ⟨index, bound, rfl⟩ := run.covers_index point covered
  apply List.mem_append_left
  exact List.mem_flatMap.2 ⟨run, member, List.mem_map.2 ⟨index, List.mem_range.2 bound, rfl⟩⟩

theorem image_written (run : CaseRun) (member : run ∈ caseRuns) (point : Nat)
    (covered : run.covers point = true) : run.apply point ∈ writtenPoints := by
  obtain ⟨index, bound, rfl⟩ := run.covers_index point covered
  apply List.mem_append_left
  refine List.mem_flatMap.2 ⟨run, member, List.mem_map.2 ⟨index, List.mem_range.2 bound, ?_⟩⟩
  simp [CaseRun.apply]

theorem expansion_written (point : Nat) (points : List Nat)
    (found : caseExpansions.lookup point = some points) (part : Nat) (member : part ∈ points) :
    part ∈ writtenPoints := by
  obtain ⟨before, after, split, _⟩ := List.lookup_eq_some_iff.1 found
  apply List.mem_append_right
  exact List.mem_flatMap.2 ⟨(point, points), by simp [split], member⟩

theorem upper_points_unchanged (point : Nat) (unchanged : point ∉ changedPoints) :
    upperPoints point = [point] := by
  have uncovered : caseRuns.find? (fun run => run.covers point) = none := by
    rw [List.find?_eq_none]
    intro run member covered
    exact unchanged (covered_changed run member point covered)
  have unlisted : caseExpansions.lookup point = none := by
    rw [List.lookup_eq_none_iff]
    intro expansion member
    have keys : expansion.1 ∈ changedPoints :=
      List.mem_append_right _ (List.mem_map_of_mem member)
    simp only [bne_iff_ne]
    rintro rfl
    exact unchanged keys
  rw [upperPoints, uncovered]
  simp only [unlisted, Option.getD_none]

def asciiRun : CaseRun := ⟨0x61, 0x7A, 1, 0x41⟩

theorem ascii_run_listed : asciiRun ∈ caseRuns := List.Mem.head _

theorem ascii_run_covers (letter : Char) (lower : ('a' ≤ letter && letter ≤ 'z') = true) :
    asciiRun.covers letter.toNat = true := by
  simp only [Bool.and_eq_true, decide_eq_true_eq] at lower
  have first : 97 ≤ letter.toNat := lower.1
  have last : letter.toNat ≤ 122 := lower.2
  simp [CaseRun.covers, asciiRun, Nat.mod_one, first, last]

theorem ascii_run_apply (point : Nat) (lower : 0x61 ≤ point) :
    asciiRun.apply point = point - 32 := by
  simp only [CaseRun.apply, asciiRun]
  omega

theorem upper_character_unchanged (letter : Char) (unchanged : letter.toNat ∉ changedPoints) :
    upperCharacter letter = [letter] := by
  have notLower : ('a' ≤ letter && letter ≤ 'z') = false := by
    by_contra lower
    have covered := ascii_run_covers letter (by simpa using lower)
    exact unchanged (covered_changed asciiRun ascii_run_listed _ covered)
  unfold upperCharacter
  split
  case isTrue => simp [notLower]
  case isFalse =>
    rw [upper_points_unchanged _ unchanged]
    simp

/-- An uppercase is the character itself, unchanged, or written by the table. -/
theorem upper_character_cases (letter image : Char) (member : image ∈ upperCharacter letter) :
    image = letter ∧ upperCharacter letter = [letter] ∨ image.toNat ∈ writtenPoints := by
  have point_kept (point : Nat) (written : point ∈ writtenPoints) :
      (Char.ofNat point).toNat ∈ writtenPoints := by
    rwa [(written_letter point written).2.1]
  unfold upperCharacter at member ⊢
  split at member
  case isTrue ascii =>
    split at member
    case isTrue lower =>
      have covered := ascii_run_covers letter lower
      have written := image_written asciiRun ascii_run_listed _ covered
      have first : 0x61 ≤ letter.toNat := of_decide_eq_true (Bool.and_eq_true_iff.1 lower).1
      rw [ascii_run_apply _ first] at written
      rw [List.mem_singleton.1 member]
      exact .inr (point_kept _ written)
    case isFalse notLower =>
      exact .inl ⟨List.mem_singleton.1 member, by rw [if_pos ascii, if_neg notLower]⟩
  case isFalse beyond =>
    obtain ⟨point, listed, rfl⟩ := List.mem_map.1 member
    rw [if_neg beyond]
    unfold upperPoints at listed ⊢
    split at listed
    case h_1 run found =>
      have covered := List.find?_some found
      have written := image_written run (List.mem_of_find?_eq_some found) _ covered
      rw [List.mem_singleton.1 listed]
      exact .inr (point_kept _ written)
    case h_2 uncovered =>
      cases expansion : caseExpansions.lookup letter.toNat with
      | some points =>
          rw [expansion] at listed
          exact .inr (point_kept _ (expansion_written _ points expansion point listed))
      | none =>
          rw [expansion, Option.getD_none] at listed
          rw [List.mem_singleton.1 listed]
          exact .inl ⟨Char.ofNat_toNat letter, by simp⟩

theorem upper_character_settled (letter image : Char) (member : image ∈ upperCharacter letter) :
    upperCharacter image = [image] := by
  obtain ⟨rfl, unchanged⟩ | written := upper_character_cases letter image member
  · exact unchanged
  · exact upper_character_unchanged image (written_not_changed _ written)

/-- What comes before the letters in the table of characters is the uppercase of itself alone. -/
theorem sign_of_upper_character (letter image : Char) (member : image ∈ upperCharacter letter)
    (sign : image.toNat < 65) : image = letter := by
  obtain ⟨same, _⟩ | written := upper_character_cases letter image member
  · exact same
  · have letters := (written_letter _ written).1
    omega

set_option maxRecDepth 10000 in
theorem changed_points_no_halves :
    (changedPoints.all fun point => !(0x1D800 ≤ point && point < 0x1E000)) = true := by
  decide +kernel

theorem half_iff (unit : Char) :
    isHalf unit = true ↔ 0x1D800 ≤ unit.toNat ∧ unit.toNat < 0x1E000 := by
  simp only [isHalf, isHighHalf, isLowHalf, Bool.or_eq_true, Bool.and_eq_true, decide_eq_true_eq]
  omega

theorem pair_halves (high low : Char) (pair : isPair high low = true) :
    isHalf high = true ∧ isHalf low = true := by
  obtain ⟨front, behind⟩ := Bool.and_eq_true_iff.1 pair
  simp [isHalf, front, behind]

theorem upper_character_half (unit : Char) (half : isHalf unit = true) :
    upperCharacter unit = [unit] := by
  apply upper_character_unchanged
  intro changed
  have apart := List.all_eq_true.1 changed_points_no_halves _ changed
  rw [half_iff] at half
  simp [half] at apart

theorem half_of_upper_character (unit image : Char) (member : image ∈ upperCharacter unit)
    (half : isHalf image = true) : image = unit := by
  obtain ⟨same, _⟩ | written := upper_character_cases unit image member
  · exact same
  · exact absurd ((half_iff image).1 half) (written_letter _ written).2.2

theorem run_planes :
    (caseRuns.all fun run =>
      run.last < 0x10000 ||
        0x10000 ≤ run.image && run.image + (run.last - run.first) < 0x110000) = true := by
  decide +kernel

theorem expansion_planes :
    (caseExpansions.all fun expansion =>
      expansion.1 < 0x10000 && !expansion.2.isEmpty) = true := by
  decide +kernel

theorem upper_points_ne_nil (point : Nat) : upperPoints point ≠ [] := by
  rw [upperPoints]
  split
  case h_1 => exact List.cons_ne_nil _ _
  case h_2 =>
    cases found : caseExpansions.lookup point with
    | none => exact List.cons_ne_nil _ _
    | some points =>
        obtain ⟨before, after, split, _⟩ := List.lookup_eq_some_iff.1 found
        have filled := List.all_eq_true.1 expansion_planes (point, points) (by simp [split])
        simpa using (Bool.and_eq_true_iff.1 filled).2

theorem upper_character_ne_nil (unit : Char) : upperCharacter unit ≠ [] := by
  rw [upperCharacter]
  split
  case isTrue => split <;> exact List.cons_ne_nil _ _
  case isFalse => simpa using upper_points_ne_nil unit.toNat

/-- Above the basic plane one character becomes one, which stays as it is. -/
theorem upper_points_above (point : Nat) (lower : 0x10000 ≤ point) (upper : point < 0x110000) :
    ∃ image, upperPoints point = [image] ∧ 0x10000 ≤ image ∧ image < 0x110000 ∧
      upperPoints image = [image] := by
  cases found : caseRuns.find? fun run => run.covers point with
  | some run =>
      have member := List.mem_of_find?_eq_some found
      have covered := List.find?_some found
      have written := image_written run member point covered
      have planes := List.all_eq_true.1 run_planes run member
      refine ⟨run.apply point, by rw [upperPoints, found], ?_, ?_,
        upper_points_unchanged _ (written_not_changed _ written)⟩ <;>
      · simp only [CaseRun.covers, Bool.and_eq_true, Bool.or_eq_true, decide_eq_true_eq]
          at covered planes
        unfold CaseRun.apply
        omega
  | none =>
      have unlisted : caseExpansions.lookup point = none := by
        rw [List.lookup_eq_none_iff]
        intro expansion member
        have plane := (Bool.and_eq_true_iff.1 (List.all_eq_true.1 expansion_planes _ member)).1
        rw [decide_eq_true_eq] at plane
        rw [bne_iff_ne]
        omega
      have same : upperPoints point = [point] := by
        rw [upperPoints, found]
        simp only [unlisted, Option.getD_none]
      exact ⟨point, same, lower, upper, same⟩

/-- The uppercase of a pair is a pair that stays as it is. -/
theorem upper_pair_cases (high low : Char) (pair : isPair high low = true) :
    ∃ front behind, upperPair high low = [front, behind] ∧ isPair front behind = true ∧
      upperPair front behind = [front, behind] := by
  obtain ⟨lower, upper⟩ := pair_point_bounds high low pair
  obtain ⟨image, single, imageLower, imageUpper, settled⟩ := upper_points_above _ lower upper
  obtain ⟨front, behind, units, paired, point⟩ := of_point_pair image imageLower imageUpper
  refine ⟨front, behind, ?_, paired, ?_⟩
  · simp [upperPair, single, units]
  · simp [upperPair, point, settled, units]

end PostalAddress.Text
