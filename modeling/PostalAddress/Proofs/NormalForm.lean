import PostalAddress.NormalForm
import PostalAddress.Proofs.Squeezed
import PostalAddress.Proofs.Uppercase

/-!
The normal form said on its own, without the steps that lead to it: no letters in lower case, no
periods and parentheses, single spaces, no list punctuation at either end. Normalizing gives a text
of this form, and of one that has it the uppercase, which is another text only if two halves in it
make a letter in lower case. A piece cut off the front of a normal form may begin with list
punctuation and is normal but for that; normalizing takes just that off.
-/

namespace PostalAddress

/-- A normal form but for what it begins with. -/
structure IsTidy (text : Text) : Prop where
  settled : ∀ letter ∈ text, Text.upperCharacter letter = [letter]
  unmarked : ∀ letter ∈ text, isDroppedMark letter = false
  squeezed : Text.IsSqueezed text
  last : ∀ letter ∈ text.getLast?, isEdgeMark letter = false

structure IsNormal (text : Text) : Prop extends IsTidy text where
  first : ∀ letter ∈ text.head?, isEdgeMark letter = false

theorem IsTidy.suffix {text part : Text} (tidy : IsTidy text) (within : part <:+ text) :
    IsTidy part where
  settled letter member := tidy.settled letter (within.subset member)
  unmarked letter member := tidy.unmarked letter (within.subset member)
  squeezed := tidy.squeezed.part within.isInfix
  last letter member := by
    obtain ⟨before, split⟩ := within
    apply tidy.last
    rw [← split, List.getLast?_append]
    simp only [Option.mem_def, Option.or_eq_some_iff]
    exact .inl member

theorem IsTidy.normal {text : Text} (tidy : IsTidy text)
    (first : ∀ letter ∈ text.head?, isEdgeMark letter = false) : IsNormal text :=
  { tidy with first := first }

theorem no_dropped_mark_iff (text : Text) :
    (∀ letter ∈ text, isDroppedMark letter = false) ↔ '.' ∉ text ∧ '(' ∉ text ∧ ')' ∉ text := by
  constructor
  · intro unmarked
    refine ⟨fun member => ?_, fun member => ?_, fun member => ?_⟩ <;>
      exact absurd (unmarked _ member) (by decide)
  · rintro ⟨period, opening, closing⟩ letter member
    simp only [isDroppedMark, Bool.or_eq_false_iff, decide_eq_false_iff_not]
    exact ⟨⟨fun same => period (same ▸ member), fun same => opening (same ▸ member)⟩,
      fun same => closing (same ▸ member)⟩

theorem blank_edge (letter : Char) (blank : isBlank letter = true) : isEdgeMark letter = true := by
  simp [isEdgeMark, blank]

theorem not_blank_of_not_edge (letter : Char) (inside : isEdgeMark letter = false) :
    isBlank letter = false :=
  (Bool.or_eq_false_iff.1 (Bool.or_eq_false_iff.1 inside).1).1

theorem normalize_normal (value : Text) : IsNormal (normalize value) := by
  have within := Text.trim_where_within isEdgeMark
    (Text.squeeze (value.upper.filter fun letter => !isDroppedMark letter))
  have source (letter : Char) (member : letter ∈ normalize value) :
      letter = ' ' ∨ letter ∈ value.upper ∧ isDroppedMark letter = false := by
    rcases Text.mem_squeeze _ letter (within.subset member) with space | ⟨kept, _⟩
    · exact .inl space
    · obtain ⟨written, unmarked⟩ := List.mem_filter.1 kept
      exact .inr ⟨written, by simpa using unmarked⟩
  apply IsTidy.normal
  · constructor
    case settled =>
      intro letter member
      rcases source letter member with rfl | ⟨written, _⟩
      · decide
      · exact Text.mem_upper_settled value letter written
    case unmarked =>
      intro letter member
      rcases source letter member with rfl | ⟨_, unmarked⟩
      · decide
      · exact unmarked
    case squeezed => exact (Text.squeeze_squeezed _).part within
    case last => exact Text.last_trim_where isEdgeMark _
  · exact Text.head_trim_where isEdgeMark _

theorem IsTidy.normalize {text : Text} (tidy : IsTidy text) (upper : text.IsUpper) :
    normalize text = text.dropWhile isEdgeMark := by
  have kept : text.filter (fun letter => !isDroppedMark letter) = text := by
    rw [List.filter_eq_self]
    intro letter member
    simp [tidy.unmarked letter member]
  rw [PostalAddress.normalize, upper.upper, kept, tidy.squeezed.squeeze,
    Text.trim_where_of_last isEdgeMark text tidy.last]

theorem IsNormal.normalize {text : Text} (normal : IsNormal text) (upper : text.IsUpper) :
    normalize text = text := by
  rw [normal.toIsTidy.normalize upper, Text.drop_while_of_head isEdgeMark text normal.first]

theorem normalize_upper (value : Text) : normalize value.upper = normalize value := by
  rw [normalize, Text.upper_upper]
  rfl

theorem half_unchanged (unit : Char) (half : Text.isHalf unit = true) :
    isDroppedMark unit = false ∧ isEdgeMark unit = false := by
  rw [Text.half_iff] at half
  constructor
  · simp only [isDroppedMark, Bool.or_eq_false_iff, decide_eq_false_iff_not]
    refine ⟨⟨?_, ?_⟩, ?_⟩ <;> rintro rfl <;> exact absurd half (by decide)
  · simp only [isEdgeMark, isBlank, Bool.or_eq_false_iff, Bool.and_eq_false_iff,
      decide_eq_false_iff_not]
    refine ⟨⟨by omega, ?_⟩, ?_⟩ <;> rintro rfl <;> exact absurd half (by decide)

/-- Of what stands in a tidy text its uppercase changes halves alone. -/
theorem IsTidy.mem_upper {text : Text} (tidy : IsTidy text) (letter : Char)
    (member : letter ∈ text.upper) : Text.isHalf letter = true ∨ letter ∈ text := by
  refine (Text.mem_upper_cases text letter member).imp_right fun ⟨unit, listed, image⟩ => ?_
  rw [tidy.settled unit listed, List.mem_singleton] at image
  exact image ▸ listed

/-- In the front of the uppercase of a tidy text no unit is of a class that halves are not in,
unless the front of the text is. -/
theorem upper_head_no (text : Text) (settled : ∀ unit ∈ text, Text.upperCharacter unit = [unit])
    (holds : Char → Bool) (halves : ∀ unit, Text.isHalf unit = true → holds unit = false)
    (first : ∀ letter ∈ text.head?, holds letter = false) :
    ∀ letter ∈ text.upper.head?, holds letter = false := by
  have same := congrArg List.head? (Text.upper_class_of_settled text settled holds halves)
  rw [List.head?_map, List.head?_map] at same
  intro letter member
  rw [Option.mem_def.1 member] at same
  obtain ⟨source, front, image⟩ := Option.map_eq_some_iff.1 same.symm
  rw [← image, first source front]

theorem IsTidy.upper {text : Text} (tidy : IsTidy text) : IsTidy text.upper where
  settled letter member := Text.mem_upper_settled text letter member
  unmarked letter member :=
    (tidy.mem_upper letter member).elim (fun half => (half_unchanged letter half).1)
      (tidy.unmarked letter)
  squeezed := by
    constructor
    case spaces =>
      intro letter member blank
      rcases tidy.mem_upper letter member with half | listed
      · have edge := blank_edge letter blank
        rw [(half_unchanged letter half).2] at edge
        cases edge
      · exact tidy.squeezed.spaces letter listed blank
    case apart =>
      have same := Text.upper_class_of_settled text tidy.settled (· == ' ') fun unit half => by
        rw [beq_eq_false_iff_ne]
        rintro rfl
        cases half
      have apart : (text.map (· == ' ')).IsChain fun left right => ¬(left = true ∧ right = true) := by
        simpa [List.isChain_map] using tidy.squeezed.apart
      rw [← same, List.isChain_map] at apart
      simpa using apart
  last := by
    have same := congrArg List.getLast? (Text.upper_class_of_settled text tidy.settled isEdgeMark
      fun unit half => (half_unchanged unit half).2)
    rw [List.getLast?_map, List.getLast?_map] at same
    intro letter member
    rw [Option.mem_def.1 member] at same
    obtain ⟨source, ends, image⟩ := Option.map_eq_some_iff.1 same.symm
    rw [← image, tidy.last source ends]

theorem IsNormal.upper {text : Text} (normal : IsNormal text) : IsNormal text.upper := by
  apply normal.toIsTidy.upper.normal
  exact upper_head_no text normal.settled isEdgeMark (fun unit half => (half_unchanged unit half).2)
    normal.first

theorem IsNormal.normalize_eq_upper {text : Text} (normal : IsNormal text) :
    PostalAddress.normalize text = text.upper := by
  rw [← normalize_upper, normal.upper.normalize (Text.upper_is_upper text)]

theorem normalize_eq_self_iff_normal (text : Text) :
    PostalAddress.normalize text = text ↔ IsNormal text ∧ text.IsUpper := by
  constructor
  · intro same
    have normal : IsNormal text := same ▸ normalize_normal text
    rw [normal.normalize_eq_upper, Text.upper_eq_self_iff] at same
    exact ⟨normal, same⟩
  · rintro ⟨normal, upper⟩
    exact normal.normalize upper

theorem normalize_normalize (value : Text) : normalize (normalize value) = (normalize value).upper :=
  (normalize_normal value).normalize_eq_upper

theorem normalize_nil : normalize [] = [] := rfl

/-- A character of a normal form shows that the normal form of a text around it is not empty. -/
theorem normalize_ne_nil (value : Text) (letter : Char) (member : letter ∈ value)
    (settled : Text.upperCharacter letter = [letter]) (unmarked : isDroppedMark letter = false)
    (inside : isEdgeMark letter = false) : normalize value ≠ [] := by
  intro empty
  obtain ⟨letter, written, unmarked, inside⟩ : ∃ other ∈ value.upper,
      isDroppedMark other = false ∧ isEdgeMark other = false := by
    rcases Text.mem_upper_of_settled value letter member settled with written | ⟨other, written, half⟩
    · exact ⟨letter, written, unmarked, inside⟩
    · exact ⟨other, written, half_unchanged other half⟩
  have kept : letter ∈ value.upper.filter fun other => !isDroppedMark other :=
    List.mem_filter.2 ⟨written, by simp [unmarked]⟩
  have solid := not_blank_of_not_edge letter inside
  have squeezed := Text.mem_squeeze_of_solid _ letter kept solid
  rw [normalize, Text.trimWhere, Text.dropEndWhile, List.reverse_eq_nil_iff,
    List.dropWhile_eq_nil_iff] at empty
  rw [← List.takeWhile_append_dropWhile (p := isEdgeMark) (l := Text.squeeze _)] at squeezed
  rcases List.mem_append.1 squeezed with before | behind
  · rw [List.mem_takeWhile_imp before] at inside
    cases inside
  · rw [empty letter (List.mem_reverse.2 behind)] at inside
    cases inside

theorem IsNormal.normalize_append_ne_nil {text : Text} (normal : IsNormal text) (given : text ≠ [])
    (behind : Text) : PostalAddress.normalize (text ++ behind) ≠ [] := by
  obtain ⟨letter, rest, rfl⟩ := List.exists_cons_of_ne_nil given
  exact normalize_ne_nil _ letter (by simp) (normal.settled letter (by simp))
    (normal.unmarked letter (by simp)) (normal.first letter rfl)

theorem IsNormal.normalize_ne_nil {text : Text} (normal : IsNormal text) (given : text ≠ []) :
    PostalAddress.normalize text ≠ [] := by
  simpa using normal.normalize_append_ne_nil given []

/-- A character that stands for itself wherever it is: an ASCII letter in uppercase, a digit, a
hyphen or a number sign. -/
def isPlain (letter : Char) : Bool :=
  'A' ≤ letter && letter ≤ 'Z' || '0' ≤ letter && letter ≤ '9' || letter = '-' || letter = '#'

theorem plain_point (letter : Char) (plain : isPlain letter = true) :
    65 ≤ letter.toNat ∧ letter.toNat ≤ 90 ∨ 48 ≤ letter.toNat ∧ letter.toNat ≤ 57 ∨
      letter.toNat = 45 ∨ letter.toNat = 35 := by
  simp only [isPlain, Bool.or_eq_true, Bool.and_eq_true, decide_eq_true_eq] at plain
  rcases plain with ((letters | digits) | rfl) | rfl
  · exact .inl letters
  · exact .inr (.inl digits)
  · exact .inr (.inr (.inl rfl))
  · exact .inr (.inr (.inr rfl))

theorem plain_settled (letter : Char) (plain : isPlain letter = true) :
    Text.upperCharacter letter = [letter] := by
  have point := plain_point letter plain
  have notLower : ¬ 'a' ≤ letter := fun lower => by
    have bound : 97 ≤ letter.toNat := lower
    omega
  rw [Text.upperCharacter, if_pos (by omega), if_neg (by simp [notLower])]

theorem plain_no_half (letter : Char) (plain : isPlain letter = true) :
    Text.isHalf letter = false := by
  have point := plain_point letter plain
  rw [← Bool.not_eq_true, Text.half_iff]
  omega

theorem plain_upper (text : Text) (plain : ∀ letter ∈ text, isPlain letter = true) :
    text.IsUpper :=
  Text.upper_of_no_halves text (fun letter member => plain_settled letter (plain letter member))
    fun letter member => plain_no_half letter (plain letter member)

theorem plain_not_edge (letter : Char) (plain : isPlain letter = true) :
    isEdgeMark letter = false := by
  have point := plain_point letter plain
  have blank : isBlank letter = false := by
    simp only [isBlank, Bool.or_eq_false_iff, Bool.and_eq_false_iff, decide_eq_false_iff_not]
    omega
  simp only [isEdgeMark, blank, Bool.false_or, Bool.or_eq_false_iff, decide_eq_false_iff_not]
  constructor <;> rintro rfl <;> revert point <;> decide

theorem plain_normal (text : Text) (plain : ∀ letter ∈ text, isPlain letter = true) :
    IsNormal text := by
  have notEdge (letter : Char) (member : letter ∈ text) := plain_not_edge letter (plain letter member)
  have noSpace (letter : Char) (member : letter ∈ text) : letter ≠ ' ' := by
    rintro rfl
    exact absurd (notEdge ' ' member) (by decide)
  have squeezed : Text.IsSqueezed text := by
    constructor
    case spaces =>
      intro letter member blank
      have edge := blank_edge letter blank
      rw [notEdge letter member] at edge
      cases edge
    case apart =>
      have pairs : text.Pairwise fun left right => ¬(left = ' ' ∧ right = ' ') :=
        List.pairwise_of_forall_mem_list fun left member _ _ both => noSpace left member both.1
      exact pairs.isChain
  apply IsTidy.normal
  · constructor
    case settled =>
      intro letter member
      exact plain_settled letter (plain letter member)
    case unmarked =>
      intro letter member
      have point := plain_point letter (plain letter member)
      simp only [isDroppedMark, Bool.or_eq_false_iff, decide_eq_false_iff_not]
      refine ⟨⟨?_, ?_⟩, ?_⟩ <;> rintro rfl <;> revert point <;> decide
    case squeezed => exact squeezed
    case last =>
      intro letter member
      exact notEdge letter (List.mem_of_getLast? member)
  · intro letter member
    exact notEdge letter (List.mem_of_head? member)

theorem normalize_plain (text : Text) (plain : ∀ letter ∈ text, isPlain letter = true) :
    normalize text = text :=
  (plain_normal text plain).normalize (plain_upper text plain)

def blankPoints : List Nat :=
  [9, 10, 11, 12, 13, 0x20, 0xA0, 0x1680, 0x2000, 0x2001, 0x2002, 0x2003, 0x2004, 0x2005, 0x2006,
    0x2007, 0x2008, 0x2009, 0x200A, 0x2028, 0x2029, 0x202F, 0x205F, 0x3000, 0xFEFF]

theorem blank_point_listed (letter : Char) (blank : isBlank letter = true) :
    letter.toNat ∈ blankPoints := by
  simp only [isBlank, Bool.or_eq_true, Bool.and_eq_true, decide_eq_true_eq] at blank
  simp only [blankPoints, List.mem_cons, List.not_mem_nil, or_false]
  omega

set_option maxRecDepth 10000 in
theorem blank_points_unchanged :
    (blankPoints.all fun point => !(Text.bitSet Text.changedPoints).testBit point) = true := by
  decide +kernel

theorem blank_settled (letter : Char) (blank : isBlank letter = true) :
    Text.upperCharacter letter = [letter] := by
  apply Text.upper_character_unchanged
  have unset := List.all_eq_true.1 blank_points_unchanged _ (blank_point_listed letter blank)
  rw [Text.bit_set_test_bit] at unset
  simpa using unset

theorem edge_unchanged (letter : Char) (edge : isEdgeMark letter = true) :
    Text.upperCharacter letter = [letter] ∧ isDroppedMark letter = false := by
  have kept : isDroppedMark letter = false := by
    simp only [isDroppedMark, Bool.or_eq_false_iff, decide_eq_false_iff_not]
    refine ⟨⟨?_, ?_⟩, ?_⟩ <;> rintro rfl <;> exact absurd edge (by decide)
  refine ⟨?_, kept⟩
  simp only [isEdgeMark, Bool.or_eq_true, decide_eq_true_eq] at edge
  rcases edge with (blank | rfl) | rfl
  · exact blank_settled letter blank
  · decide
  · decide

/-- A value as it is before its blanks are put in order. -/
def unmarkedUpper (value : Text) : Text := value.upper.filter fun letter => !isDroppedMark letter

theorem unmarked_upper_append (left right : Text)
    (apart : ∀ high ∈ left.getLast?, ∀ low ∈ right.head?, ¬Text.IsLowerPair high low) :
    unmarkedUpper (left ++ right) = unmarkedUpper left ++ unmarkedUpper right := by
  rw [unmarkedUpper, Text.upper_append left right apart, List.filter_append]
  rfl

theorem edge_whole (edge : Char) (isEdge : isEdgeMark edge = true) : Text.isHalf edge = false := by
  by_contra half
  rw [(half_unchanged edge (by simpa using half)).2] at isEdge
  cases isEdge

theorem edge_apart (edge other : Char) (isEdge : isEdgeMark edge = true) :
    ¬Text.IsLowerPair edge other ∧ ¬Text.IsLowerPair other edge := by
  obtain ⟨front, behind⟩ := Text.whole_no_pair edge other (edge_whole edge isEdge)
  exact ⟨Text.not_lower_of_no_pair _ _ front, Text.not_lower_of_no_pair _ _ behind⟩

theorem edges_upper (text : Text) (edges : ∀ letter ∈ text, isEdgeMark letter = true) :
    text.IsUpper :=
  Text.upper_of_no_halves text (fun letter member => (edge_unchanged letter (edges letter member)).1)
    fun letter member => edge_whole letter (edges letter member)

theorem unmarked_upper_edges (text : Text) (edges : ∀ letter ∈ text, isEdgeMark letter = true) :
    unmarkedUpper text = text := by
  rw [unmarkedUpper, (edges_upper text edges).upper, List.filter_eq_self]
  intro letter member
  simp [(edge_unchanged letter (edges letter member)).2]

theorem unmarked_upper_behind (text edges : Text)
    (isEdges : ∀ letter ∈ edges, isEdgeMark letter = true) :
    unmarkedUpper (text ++ edges) = unmarkedUpper text ++ edges := by
  rw [unmarked_upper_append text edges, unmarked_upper_edges edges isEdges]
  intro high _ low first
  exact (edge_apart low high (isEdges low (List.mem_of_head? first))).2

theorem unmarked_upper_before (edges text : Text)
    (isEdges : ∀ letter ∈ edges, isEdgeMark letter = true) :
    unmarkedUpper (edges ++ text) = edges ++ unmarkedUpper text := by
  rw [unmarked_upper_append edges text, unmarked_upper_edges edges isEdges]
  intro high last low _
  exact (edge_apart high low (isEdges high (List.mem_of_getLast? last))).1

/-- Normalizing keeps the letters of any kind that it has no reason to drop, in order. -/
theorem normalize_filter (kept : Char → Bool)
    (noEdge : ∀ letter, isEdgeMark letter = true → kept letter = false)
    (noMark : ∀ letter, isDroppedMark letter = true → kept letter = false) (value : Text) :
    (normalize value).filter kept = value.upper.filter kept := by
  have noBlank (letter : Char) (blank : isBlank letter = true) : kept letter = false :=
    noEdge letter (blank_edge letter blank)
  have unmarked : (unmarkedUpper value).filter kept = value.upper.filter kept := by
    rw [unmarkedUpper, List.filter_filter]
    apply List.filter_congr
    intro letter _
    cases dropped : isDroppedMark letter with
    | false => simp
    | true => simp [noMark letter dropped]
  rw [normalize, Text.filter_trim_where kept isEdgeMark noEdge, Text.filter_squeeze kept noBlank,
    ← unmarkedUpper, unmarked]

/-- Blanks and list punctuation around a value make no difference to its normal form. -/
theorem normalize_surrounded (before value behind : Text)
    (edgesBefore : ∀ letter ∈ before, isEdgeMark letter = true)
    (edgesBehind : ∀ letter ∈ behind, isEdgeMark letter = true) :
    normalize (before ++ value ++ behind) = normalize value := by
  change Text.trimWhere isEdgeMark (Text.squeeze (unmarkedUpper _)) =
    Text.trimWhere isEdgeMark (Text.squeeze (unmarkedUpper value))
  rw [unmarked_upper_behind _ behind edgesBehind, unmarked_upper_before before _ edgesBefore]
  exact Text.trim_where_squeeze_surrounded isEdgeMark (by decide) before _ behind edgesBefore
    edgesBehind

theorem normalize_trim (value : Text) : normalize value.trim = normalize value := by
  obtain ⟨before, behind, parts, beforeBlank, behindBlank⟩ := Text.trim_parts value
  conv_rhs => rw [parts]
  symm
  apply normalize_surrounded
  · intro letter member
    exact blank_edge letter (beforeBlank letter member)
  · intro letter member
    exact blank_edge letter (behindBlank letter member)

end PostalAddress
